import ObservedConfig.Base64
import ObservedConfig.Location
import ObservedConfig.ObjectMeta

/-! Config maps: named texts and named bytes under a location. -/
namespace ObservedConfig

abbrev BytesMap := List (String × Base64.Bytes)

structure ConfigMap where
  metadata : ObjectMeta
  data : Option TextMap
  binaryData : Option BytesMap
  immutable : Option Bool
  deriving DecidableEq, Inhabited

namespace ConfigMap

def blank : ConfigMap := ⟨.blank, none, none, none⟩

def location (c : ConfigMap) : Location :=
  ⟨c.metadata.effectiveNamespace, c.metadata.effectiveName⟩

/-- The texts; an absent map counts as an empty one. -/
def texts (c : ConfigMap) : TextMap := c.data.getD []

def readFixed (expected : String) : Read Unit := fun d => do
  let found ← Read.text d
  if found = expected then return ()
  throw (.wrongValue (.text found) expected)

def readBytes : Read Base64.Bytes := fun d =>
  match d with
  | .null => .ok []
  | d =>
    match d.untag with
    | .text s => (Base64.decode s).mapError fun fault => .malformed fault.message
    | d => .error (.wrongType d "a base64-encoded string")

def readBytesMap (format : Format) : Read BytesMap := fun d =>
  (Read.textMap format readBytes d).map Entries.ofList

def shape (format : Format) : Shape ConfigMap where
  name := "ConfigMap"
  positional := false
  unique := false
  blank := blank
  fields := [
    .optional "apiVersion" (readFixed "v1") fun _ c => c,
    .optional "kind" (readFixed "ConfigMap") fun _ c => c,
    .optional "metadata" (.option (ObjectMeta.read format))
      fun metadata c => { c with metadata := metadata.getD .blank },
    .optional "data" (.option (ObjectMeta.readTextMap format)) fun data c => { c with data },
    .optional "binaryData" (.option (readBytesMap format))
      fun binaryData c => { c with binaryData },
    .optional "immutable" (.option .bool) fun immutable c => { c with immutable }]

def read (format : Format) : Read ConfigMap := (shape format).read format

def bytesDatum (m : BytesMap) : Datum :=
  .object (m.map fun (key, bytes) => (key, .text (Base64.encode bytes)))

def toDatum (c : ConfigMap) : Datum := .object (ObjectMeta.fields [
  ("apiVersion", some (.text "v1")),
  ("kind", some (.text "ConfigMap")),
  ("metadata", some c.metadata.toDatum),
  ("data", c.data.map TextMap.toDatum),
  ("binaryData", c.binaryData.map bytesDatum),
  ("immutable", c.immutable.map .bool)])

end ConfigMap

end ObservedConfig
