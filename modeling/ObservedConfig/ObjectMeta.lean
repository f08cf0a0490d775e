import ObservedConfig.Entries
import ObservedConfig.Timestamp

/-! What every resource says about itself. A resource without a name of its own is known by the
beginning its name will be generated from. -/
namespace ObservedConfig

abbrev TextMap := List (String × String)

def TextMap.toDatum (m : TextMap) : Datum := .object (m.map fun (key, value) => (key, .text value))

structure Owner where
  apiVersion : String
  kind : String
  name : String
  uid : String
  blockOwnerDeletion : Option Bool
  controller : Option Bool
  deriving DecidableEq, Inhabited

structure ObjectMeta where
  name : Option String
  namespaceName : Option String
  generateName : Option String
  labels : Option TextMap
  annotations : Option TextMap
  finalizers : Option (List String)
  generation : Option Int
  resourceVersion : Option String
  selfLink : Option String
  uid : Option String
  creationTimestamp : Option Timestamp
  deletionTimestamp : Option Timestamp
  deletionGracePeriodSeconds : Option Int
  owners : Option (List Owner)
  deriving DecidableEq, Inhabited

namespace ObjectMeta

def blank : ObjectMeta :=
  ⟨none, none, none, none, none, none, none, none, none, none, none, none, none, none⟩

def located (namespaceName name : String) : ObjectMeta :=
  { blank with name := some name, namespaceName := some namespaceName }

def effectiveName (m : ObjectMeta) : String := (m.name.or m.generateName).getD ""

/-- Resources without a namespace stand in the default one. -/
def effectiveNamespace (m : ObjectMeta) : String := m.namespaceName.getD "default"

def readTextMap (format : Format) : Read TextMap := fun d =>
  (Read.textMap format .text d).map Entries.ofList

/-- A text that may be null, which counts as the empty text. -/
def readName : Read String := fun d => (Read.option .text d).map (·.getD "")

def ownerShape : Shape Owner where
  name := "OwnerReference"
  positional := false
  unique := false
  blank := ⟨"", "", "", "", none, none⟩
  fields := [
    .optional "apiVersion" readName fun apiVersion o => { o with apiVersion },
    .optional "kind" readName fun kind o => { o with kind },
    .optional "name" readName fun name o => { o with name },
    .optional "uid" readName fun uid o => { o with uid },
    .optional "blockOwnerDeletion" (.option .bool)
      fun blockOwnerDeletion o => { o with blockOwnerDeletion },
    .optional "controller" (.option .bool) fun controller o => { o with controller }]

def shape (format : Format) : Shape ObjectMeta where
  name := "ObjectMeta"
  positional := false
  unique := false
  blank := blank
  fields := [
    .optional "name" (.option .text) fun name m => { m with name },
    .optional "namespace" (.option .text) fun namespaceName m => { m with namespaceName },
    .optional "generateName" (.option .text) fun generateName m => { m with generateName },
    .optional "labels" (.option (readTextMap format)) fun labels m => { m with labels },
    .optional "annotations" (.option (readTextMap format))
      fun annotations m => { m with annotations },
    .optional "finalizers" (.option (.list format .text)) fun finalizers m => { m with finalizers },
    .optional "generation" (.option .int64) fun generation m => { m with generation },
    .optional "resourceVersion" (.option .text)
      fun resourceVersion m => { m with resourceVersion },
    .optional "selfLink" (.option .text) fun selfLink m => { m with selfLink },
    .optional "uid" (.option .text) fun uid m => { m with uid },
    .optional "creationTimestamp" (.option Timestamp.ofDatum)
      fun creationTimestamp m => { m with creationTimestamp },
    .optional "deletionTimestamp" (.option Timestamp.ofDatum)
      fun deletionTimestamp m => { m with deletionTimestamp },
    .optional "deletionGracePeriodSeconds" (.option .int64)
      fun deletionGracePeriodSeconds m => { m with deletionGracePeriodSeconds },
    .optional "ownerReferences" (.option (.list format (ownerShape.read format)))
      fun owners m => { m with owners }]

def read (format : Format) : Read ObjectMeta := (shape format).read format

def fields (fields : List (String × Option Datum)) : List (String × Datum) :=
  fields.filterMap fun (name, value?) => value?.map fun value => (name, value)

def ownerDatum (o : Owner) : Datum := .object (fields [
  ("apiVersion", some (.text o.apiVersion)),
  ("blockOwnerDeletion", o.blockOwnerDeletion.map .bool),
  ("controller", o.controller.map .bool),
  ("kind", some (.text o.kind)),
  ("name", some (.text o.name)),
  ("uid", some (.text o.uid))])

def toDatum (m : ObjectMeta) : Datum := .object (fields [
  ("annotations", m.annotations.map TextMap.toDatum),
  ("creationTimestamp", m.creationTimestamp.map Timestamp.toDatum),
  ("deletionGracePeriodSeconds", m.deletionGracePeriodSeconds.map .int),
  ("deletionTimestamp", m.deletionTimestamp.map Timestamp.toDatum),
  ("finalizers", m.finalizers.map .texts),
  ("generateName", m.generateName.map .text),
  ("generation", m.generation.map .int),
  ("labels", m.labels.map TextMap.toDatum),
  ("name", m.name.map .text),
  ("namespace", m.namespaceName.map .text),
  ("ownerReferences", m.owners.map fun owners => .seq (owners.map ownerDatum)),
  ("resourceVersion", m.resourceVersion.map .text),
  ("selfLink", m.selfLink.map .text),
  ("uid", m.uid.map .text)])

end ObjectMeta

end ObservedConfig
