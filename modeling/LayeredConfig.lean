import LayeredConfig.ChangeSet.Draft
import LayeredConfig.ChangeSet.Written
import LayeredConfig.Context.Search
import LayeredConfig.Section.Areas
import LayeredConfig.Source.Wrapped
import LayeredConfig.World
import LayeredConfig.Json.Writer
import LayeredConfig.Proofs.Moments
import LayeredConfig.Proofs.Precedence
import LayeredConfig.Proofs.Answers
import LayeredConfig.Proofs.Enumeration
import LayeredConfig.Proofs.Wrappers
import LayeredConfig.Proofs.SourceTrees
import LayeredConfig.Proofs.Dispatching
import LayeredConfig.Proofs.Rebuilding
import LayeredConfig.Proofs.Managers
import LayeredConfig.Proofs.Passes
import LayeredConfig.Proofs.Ties
import LayeredConfig.Proofs.Differences
import LayeredConfig.Proofs.Revisions
import LayeredConfig.Proofs.Folding
import LayeredConfig.Proofs.Combining
import LayeredConfig.Proofs.Flattening
import LayeredConfig.Proofs.Nesting
import LayeredConfig.Proofs.Documents
import LayeredConfig.Proofs.Subsections
import LayeredConfig.Proofs.Places
import LayeredConfig.Proofs.Freezing
import LayeredConfig.Proofs.Notifications
import LayeredConfig.Proofs.Registries
import LayeredConfig.Proofs.Drafts
import LayeredConfig.Proofs.Ordinals
import LayeredConfig.Proofs.Replacements
import LayeredConfig.Proofs.Layers
import LayeredConfig.Proofs.Numerals
import LayeredConfig.Proofs.Conversions
import LayeredConfig.Proofs.Durations
import LayeredConfig.Proofs.ThreadFilters
import LayeredConfig.Proofs.TypedReads
import LayeredConfig.Proofs.TextLists
import LayeredConfig.Proofs.Variables
import LayeredConfig.Proofs.JsonTexts
import LayeredConfig.Proofs.Calendars
import LayeredConfig.Proofs.Instants
import LayeredConfig.Proofs.WrittenForms
import LayeredConfig.Proofs.Namesakes
import LayeredConfig.Proofs.Reloads
import LayeredConfig.Proofs.Classification
import LayeredConfig.Proofs.Areas
import LayeredConfig.Proofs.Extracts
import LayeredConfig.Proofs.Bootstrap
import LayeredConfig.Proofs.Calls
import LayeredConfig.Proofs.Identities
import LayeredConfig.Pattern.Reader
