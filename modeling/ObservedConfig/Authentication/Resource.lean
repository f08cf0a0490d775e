import ObservedConfig.Authentication.Document
import ObservedConfig.ObjectMeta

/-! The authentication resource: a spec under a name. -/
namespace ObservedConfig

structure Authentication where
  metadata : ObjectMeta
  spec : Authentication.Spec
  deriving DecidableEq, Inhabited

namespace Authentication

def name (a : Authentication) : String := a.metadata.effectiveName

def shape (format : Format) : Shape Authentication where
  name := "struct Authentication"
  blank := ⟨.blank, (specShape format).blank⟩
  fields := [
    .required "metadata" (ObjectMeta.read format) fun metadata a => { a with metadata },
    .required "spec" (Spec.read format) fun spec a => { a with spec }]

def read (format : Format) : Read Authentication := (shape format).read format

end Authentication

end ObservedConfig
