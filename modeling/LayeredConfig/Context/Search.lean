import LayeredConfig.Context.Basic
import LayeredConfig.Pattern.Basic

namespace LayeredConfig

def Context.findSources [Pattern.Reader] (c : Context) (pattern : String) :
    Except ConfigError (List Source) :=
  match Pattern.Reader.read pattern with
  | .ok fits => .ok (c.sources.filter (fun s => fits s.name))
  | .error cause => .error (.invalidPattern cause)

end LayeredConfig
