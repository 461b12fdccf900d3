import LayeredConfig.Property

/-!
Filters between resolution and conversion. A filter passes a property on, changed or not, or vetoes
it; an absent property counts as a veto. Besides the filters of a configuration each thread has a
list of its own, which the thread-local filter applies in its place of the chain. Main statement:
a chain applied to a concatenation is the second part applied after the first
(`applyAll_append`).
-/

namespace LayeredConfig

/-- A filter that may be in the list of a thread. The thread-local filter is left out: there it
applies the list that it is in, again and again until some filter before it vetoes. -/
inductive ListedFilter where
  | rule (name : String) (run : Property → Option Property)
  | enrolling (name : String) (added : ListedFilter)

inductive Filter where
  | listed (f : ListedFilter)
  | threadLocal

def ListedFilter.name : ListedFilter → String
  | rule n _ => n
  | enrolling n _ => n

def ListedFilter.IsRule : ListedFilter → Prop
  | rule _ _ => True
  | enrolling _ _ => False

namespace Filter

@[match_pattern]
abbrev rule (name : String) (run : Property → Option Property) : Filter := listed (.rule name run)

@[match_pattern]
abbrev enrolling (name : String) (added : ListedFilter) : Filter := listed (.enrolling name added)

def name : Filter → String
  | listed f => f.name
  | threadLocal => "thread-local"

def IsRule : Filter → Prop
  | listed f => f.IsRule
  | threadLocal => False

end Filter

abbrev Threaded (α : Type) := StateM (List ListedFilter) α

def applyEach {F : Type} (step : F → Property → Threaded (Option Property)) :
    List F → Property → Threaded (Option Property)
  | [], p => pure (some p)
  | f :: rest, p => do
    match (← step f p).filter Property.isPresent with
    | some next => applyEach step rest next
    | none => pure none

def ListedFilter.apply : ListedFilter → Property → Threaded (Option Property)
  | rule _ run, p => pure (run p)
  | enrolling _ added, p => do
    modify (· ++ [added])
    pure (some p)

def applyThreadList (p : Property) : Threaded (Option Property) := do
  applyEach ListedFilter.apply (← get) p

def Filter.apply : Filter → Property → Threaded (Option Property)
  | listed f, p => f.apply p
  | threadLocal, p => applyThreadList p

def applyAll (filters : List Filter) (p : Property) : Threaded (Option Property) :=
  applyEach Filter.apply filters p

theorem applyEach_append {F : Type} (step : F → Property → Threaded (Option Property))
    (fs gs : List F) (p : Property) :
    applyEach step (fs ++ gs) p = (do
      match ← applyEach step fs p with
      | some q => applyEach step gs q
      | none => pure none) := by
  induction fs generalizing p with
  | nil => simp [applyEach]
  | cons f rest ih =>
    simp only [List.cons_append, applyEach, bind_assoc]
    congr 1
    funext r
    cases r.filter Property.isPresent with
    | none => simp
    | some q => simp [ih]

theorem applyAll_append (fs gs : List Filter) (p : Property) :
    applyAll (fs ++ gs) p = (do
      match ← applyAll fs p with
      | some q => applyAll gs q
      | none => pure none) :=
  applyEach_append Filter.apply fs gs p

namespace ThreadList

def insertAt (l : List ListedFilter) (position : Nat) (f : ListedFilter) : List ListedFilter :=
  l.take position ++ f :: l.drop position

def removeAt (l : List ListedFilter) (position : Nat) : Option ListedFilter × List ListedFilter :=
  (l[position]?, l.eraseIdx position)

end ThreadList

end LayeredConfig
