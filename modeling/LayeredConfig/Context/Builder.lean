import LayeredConfig.Context.Basic

namespace LayeredConfig

structure Builder where
  sources : List Source
  filters : List Filter
  registry : Registry

namespace Builder

def empty (discoveries : Nat) : Builder := ⟨[], [], .empty discoveries⟩

def ofContext (c : Context) : Builder := ⟨c.sources, c.filters, c.registry⟩

def addSource (b : Builder) (s : Source) : Builder := { b with sources := b.sources ++ [s] }

def addSources (b : Builder) (l : List Source) : Builder := l.foldl addSource b

def removeSources (b : Builder) (names : List String) : Builder :=
  { b with sources := b.sources.filter (fun s => s.name ∉ names) }

def removeInstance (b : Builder) (s : Source) : Builder :=
  { b with sources := b.sources.filter (fun t => t.id ≠ s.id) }

def replaceSource (b : Builder) (name : String) (s : Source) : Builder :=
  match b.sources.findIdx? (fun t => t.name = name) with
  | some i => { b with sources := b.sources.set i s }
  | none => b.addSource s

def addFilter (b : Builder) (f : Filter) : Builder := { b with filters := b.filters ++ [f] }

def removeFilters (b : Builder) (names : List String) : Builder :=
  { b with filters := b.filters.filter (fun f => f.name ∉ names) }

def clearFilters (b : Builder) : Builder := { b with filters := [] }

def addConverter (b : Builder) (t : Target) (c : Converter t) : Builder :=
  { b with registry := b.registry.register t c }

def addConverters (b : Builder) (r : Registry) : Builder :=
  { b with registry := b.registry.merge r }

def removeConverters (b : Builder) (t : Target) : Builder :=
  { b with registry := (b.registry.removeAll t).2 }

def withDefaultConverters (b : Builder) : Builder :=
  { b with registry := b.registry.registerDefaults }

def unnamed? (b : Builder) : Option Nat :=
  (b.sources.findIdx? (fun s => Text.isAllBlank s.name)).map (· + 1)

def build (b : Builder) : Except ConfigError Context :=
  match b.unnamed? with
  | some position =>
    .error (.contextBuildFailed ("第 " ++ toString position ++ " 个属性源的名称为空"))
  | none => .ok ⟨b.sources, b.filters, b.registry⟩

def debugText (b : Builder) : String :=
  Text.record "ConfigurationContextBuilder"
    [("sources", toString b.sources.length), ("filters", toString b.filters.length)]

end Builder

end LayeredConfig
