import LayeredConfig.Event.Dispatch

namespace LayeredConfig

namespace Listener

def quotedValue (o : Option String) : String := Text.optional (o.map Text.quote)

def entryLine (key : String) : ChangeEntry → LogLine
  | .added new => ⟨.info, "配置创建: " ++ key ++ " = " ++ quotedValue (some new)⟩
  | .updated old new =>
    ⟨.info, "配置更新: " ++ key ++ ": " ++ quotedValue (some old) ++ " -> " ++
      quotedValue (some new)⟩
  | .removed old => ⟨.warn, "配置删除: " ++ key ++ " (原值 " ++ quotedValue (some old) ++ ")"⟩

def eventLines : Event → List LogLine
  | .change c =>
    ⟨.info, "配置变更: " ++ c.text⟩ :: c.entries.entries.map (fun e => entryLine e.1 e.2)
  | .contextChanged c =>
    let line := fun level what (s : Source) =>
      (⟨level, what ++ s.name ++ " at " ++ c.time.spacedText⟩ : LogLine)
    c.added.map (line .info "属性源新增: ") ++ c.updated.map (line .info "属性源更新: ") ++
      c.removed.map (line .warn "属性源删除: ")
  | .contextReplaced version time =>
    [⟨.info, "配置上下文已切换: " ++ version ++ " at " ++ time.spacedText⟩]

def logAll : List LogLine → Task
  | [] => .finish .done
  | line :: rest => .log line (logAll rest)

def logging (interested : List EventKind) : Listener :=
  ⟨"LoggingConfigEventListener", true, interested, fun e => logAll (eventLines e)⟩

def outcomeOf : Applied → Outcome
  | .failed e => .failed e
  | _ => .done

def rebuilding (holder : Nat) (manager : Option Nat) : Listener :=
  ⟨"DefaultContextChangeListener", true, [.contextChanged], fun
    | .contextChanged c => .apply holder manager c (fun a => .finish (outcomeOf a))
    | _ => .finish .done⟩

end Listener

end LayeredConfig
