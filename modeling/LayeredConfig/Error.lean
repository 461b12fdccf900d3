namespace LayeredConfig

inductive ConfigError where
  | conversionFailed (key value target : String)
  | contextBuildFailed (reason : String)
  | reconfigurationFailed (reason : String)
  | invalidChangeEntry (key : String)
  | listenerFailed (listener reason : String)
  | fileUnreadable (cause : String)
  | malformedDocument (cause : String)
  | shapeMismatch (cause : String)
  | invalidPattern (cause : String)
deriving DecidableEq, Repr, Inhabited

namespace ConfigError

def message : ConfigError → String
  | conversionFailed key value target =>
    "配置类型转换失败: key=" ++ key ++ ", value=" ++ value ++ ", 目标类型=" ++ target
  | contextBuildFailed reason => "配置上下文构建失败: " ++ reason
  | reconfigurationFailed reason => "配置上下文切换失败: " ++ reason
  | invalidChangeEntry key => "无效的变更条目: " ++ key ++ ", 新旧值不能同时为空"
  | listenerFailed listener reason => "事件监听器 " ++ listener ++ " 处理失败: " ++ reason
  | fileUnreadable cause => "配置文件读取失败: " ++ cause
  | malformedDocument cause => "配置解析失败: " ++ cause
  | shapeMismatch cause => "配置序列化失败: " ++ cause
  | invalidPattern cause => "无效的名称表达式: " ++ cause

end ConfigError

inductive Halt where
  | failed (e : ConfigError)
  | panicked
deriving DecidableEq, Repr

end LayeredConfig
