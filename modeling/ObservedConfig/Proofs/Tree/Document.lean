import ObservedConfig.Proofs.Json.Reading
import ObservedConfig.Proofs.Json.Writing
import ObservedConfig.Proofs.Tree.Equality
import ObservedConfig.Proofs.Tree.Reading

/-! Trees as documents. Every tree is read back from the document it is written as, node by node and
with each node of the same kind, although the document holds no marks of the kinds; and what a
document is read as can be said of every document place by place. -/
namespace ObservedConfig

/-- The node that stands where a datum does. Nothing is said about what is below a tree, since that
stands at places of its own. -/
inductive Datum.Stands : Datum → Node → Prop
  | list (values : List String) : Stands (.texts values) (.list values)
  | bool (b : Bool) : Stands (.bool b) (.scalar (.bool b))
  | int (i : Int) (signed : fitsInt64 i = true) : Stands (.int i) (.scalar (.int (.ofInt i)))
  | unsigned (i : Int) (wide : fitsInt64 i = false) (fits : fits64 i = true) :
    Stands (.int i) (.scalar (.float (.ofInt i)))
  | float (x : Binary64) : Stands (.float x) (.scalar (.float x))
  | text (s : String) : Stands (.text s) (.scalar (.text s))
  | tree (entries : List (Datum × Datum)) (t : Tree) : Stands (.map entries) (.tree t)

namespace Node

/-- Nodes are read from just the data of their form without wide integers. -/
theorem exists_ofDatum? {d : Datum} :
    (∃ node, ofDatum? d = some node) ↔ d.FormsNode ∧ d.Narrow := by
  induction d using Datum.induction with
  | seq items =>
    have texts : (∃ node, ofDatum? (.seq items) = some node) ↔
        ∀ item ∈ items, ∃ s, item = .text s := by
      rw [← Datum.exists_allTexts?]
      simp only [ofDatum?_eq, ← Option.isSome_iff_exists, Option.isSome_map]
    rw [texts]
    constructor
    · intro texts
      refine ⟨.seq texts, .seq fun item member => ?_⟩
      obtain ⟨s, rfl⟩ := texts item member
      exact .text s
    · rintro ⟨⟨⟩, -⟩
      assumption
  | map entries ih =>
    have each : (∃ node, ofDatum? (.map entries) = some node) ↔ ∀ entry ∈ entries,
        (∃ name, entry.1 = .text name) ∧ ∃ node, ofDatum? entry.2 = some node := by
      rw [← Tree.exists_ofEntries? (t := [])]
      simp only [ofDatum?_eq, ← Option.isSome_iff_exists, Option.isSome_map]
    rw [each]
    constructor
    · intro read
      have values entry member := (ih entry member).mp (read entry member).2
      exact ⟨.map (fun entry member => (read entry member).1) fun entry member =>
        (values entry member).1, .map fun entry member => (values entry member).2⟩
    · rintro ⟨_ | _ | _ | _ | _ | ⟨names, values⟩, _ | _ | _ | _ | _ | _ | narrow⟩ entry member
      exact ⟨names entry member,
        (ih entry member).mpr ⟨values entry member, narrow entry member⟩⟩
  | int i =>
    have number : (∃ node, ofDatum? (.int i) = some node) ↔ Datum.fits64 i = true := by
      rw [ofDatum?_eq]
      dsimp only
      split
      next signed => simp [Datum.fits64_of_fitsInt64 signed]
      next => split <;> simp_all
    rw [number]
    exact ⟨fun fits => ⟨.int i, .int i fits⟩, fun ⟨_, .int _ fits⟩ => fits⟩
  | bool b => exact ⟨fun _ => ⟨.bool b, .bool b⟩, fun _ => ⟨_, ofDatum?_eq _⟩⟩
  | float x => exact ⟨fun _ => ⟨.float x, .float x⟩, fun _ => ⟨_, ofDatum?_eq _⟩⟩
  | text s => exact ⟨fun _ => ⟨.text s, .text s⟩, fun _ => ⟨_, ofDatum?_eq _⟩⟩
  | null => simpa [ofDatum?_eq] using nofun
  | tagged => simpa [ofDatum?_eq] using nofun

theorem stands_of_read {d : Datum} {node : Node} (read : ofDatum? d = some node) :
    d.Stands node := by
  rw [ofDatum?_eq] at read
  split at read
  next items =>
    obtain ⟨values, all, rfl⟩ := Option.map_eq_some_iff.mp read
    rw [Datum.allTexts?_eq_some.mp all]
    exact .list values
  next b =>
    cases read
    exact .bool b
  next i =>
    split at read
    next signed =>
      cases read
      exact .int i signed
    next wide =>
      split at read
      next fits =>
        cases read
        exact .unsigned i (by simpa using wide) fits
      next => cases read
  next x =>
    cases read
    exact .float x
  next s =>
    cases read
    exact .text s
  next entries =>
    obtain ⟨t, -, rfl⟩ := Option.map_eq_some_iff.mp read
    exact .tree entries t
  next => cases read
  next => cases read

/-- At every path that starts from a datum stands what that place of the datum stands for. -/
theorem stands_at? {d : Datum} {node : Node} (read : ofDatum? d = some node) (path : Path) :
    Option.Rel Datum.Stands (d.at? path) (node.at? path) := by
  induction path generalizing d node with
  | nil => simpa [Datum.at?] using stands_of_read read
  | cons name rest ih =>
    cases stands_of_read read with
    | tree entries t =>
      rw [ofDatum?_eq] at read
      obtain ⟨_, inner, ⟨⟩⟩ := Option.map_eq_some_iff.mp read
      rw [at?_tree_cons, Tree.find?_ofEntries? inner, Datum.at?]
      cases last : Datum.last? name entries with
      | none => exact .none
      | some value =>
        have ⟨_, child, here⟩ :=
          Tree.exists_ofEntries?.mp ⟨t, inner⟩ _ (Datum.mem_of_last? last)
        simpa [here] using ih here
    | list | bool | int | unsigned | float | text => exact .none

theorem toEntries_eq (t : Tree) :
    Tree.toEntries t = t.map fun entry => (.text entry.1, entry.2.toDatum) := by
  induction t with
  | nil => rfl
  | cons entry rest ih => rw [Tree.toEntries, ih, List.map_cons]

end Node

theorem Datum.last?_toEntries {t : Tree} (sorted : Entries.Sorted t) (name : String) :
    Datum.last? name (Tree.toEntries t) = (Entries.find? name t).map Node.toDatum := by
  induction t with
  | nil => rfl
  | cons entry rest ih =>
    rw [Tree.toEntries, Datum.last?, ih sorted.tail, Entries.find?_cons]
    split
    next same =>
      subst same
      simp [sorted.find?_tail Entries.lt_asymmetric]
    next => simp

theorem Scalar.fits_toInt (i : Int64) : Datum.fitsInt64 i.toInt = true := by
  have lower := i.le_toInt
  have upper := i.toInt_lt
  simp only [Datum.fitsInt64, Bool.and_eq_true, decide_eq_true_eq]
  omega

/-- Every node is read from the datum it is written as. -/
theorem Node.ofDatum?_toDatum {node : Node} (sorted : node.Sorted) :
    ofDatum? node.toDatum = some node := by
  induction node using Node.induction with
  | list values => simp [toDatum, ofDatum?_eq, Datum.texts]
  | scalar value =>
    cases value with
    | int i => simp [toDatum, Scalar.toDatum, ofDatum?_eq, Scalar.fits_toInt]
    | bool | float | text => simp [toDatum, Scalar.toDatum, ofDatum?_eq]
  | tree t ih =>
    obtain ⟨ordered, below⟩ := (Tree.sorted_iff t).mp sorted
    obtain ⟨u, read⟩ : ∃ u, Tree.ofEntries? (Tree.toEntries t) [] = some u := by
      refine Tree.exists_ofEntries?.mpr fun entry member => ?_
      rw [toEntries_eq] at member
      obtain ⟨source, listed, rfl⟩ := List.mem_map.mp member
      exact ⟨⟨_, rfl⟩, _, ih source listed (below source listed)⟩
    have sortedU := Tree.sorted_ofEntries? (fun _ _ _ => sorted_ofDatum?) Tree.sorted_nil read
    have same : u = t := by
      refine Entries.Sorted.ext Entries.lt_asymmetric sortedU.entries ordered fun name => ?_
      rw [Tree.find?_ofEntries? read, Datum.last?_toEntries ordered]
      cases found : Entries.find? name t with
      | none => rfl
      | some child =>
        have member := Entries.mem_of_find? found
        exact ih _ member (below _ member)
    rw [toDatum, ofDatum?_eq]
    dsimp only
    rw [read, same, Option.map_some]

theorem Node.convey_toDatum {convey : Datum → Datum} (faithful : Datum.Faithful convey)
    {node : Node} (sorted : node.Sorted) (finite : node.Floats fun x => x.isFinite = true) :
    convey node.toDatum = node.toDatum := by
  induction node using Node.induction with
  | list values => simp [toDatum, Datum.texts, faithful.seq, faithful.text]
  | scalar value =>
    cases value with
    | bool b => exact faithful.bool b
    | int i => exact faithful.int _ (Scalar.fits_toInt i)
    | float x => exact faithful.float x (finite [] x rfl)
    | text s => exact faithful.text s
  | tree t ih =>
    obtain ⟨ordered, below⟩ := (Tree.sorted_iff t).mp sorted
    have fields : (Node.tree t).toDatum =
        .object (t.map fun entry => (entry.1, entry.2.toDatum)) := by
      simp [toDatum, toEntries_eq, Datum.object]
    have sortedFields : Entries.Sorted (t.map fun entry => (entry.1, entry.2.toDatum)) :=
      List.pairwise_map.mpr ordered
    rw [fields, faithful.object _ sortedFields, List.map_map]
    congr 1
    refine List.map_congr_left fun entry member => ?_
    simp [ih entry member (below entry member) (finite.child ordered member)]

theorem Binary64.isNaN_of_isFinite {x : Binary64} (finite : x.isFinite = true) :
    x.isNaN = false := by
  simp_all [isFinite, isNaN]

namespace Tree

/-- Trees come back from every faithful format. -/
theorem read_convey {convey : Datum → Datum} (faithful : Datum.Faithful convey) {t : Tree}
    (sorted : Tree.Sorted t) (finite : t.Floats fun x => x.isFinite = true) :
    Tree.read (convey t.toDatum) = .ok t := by
  have sortedNode : (Node.tree t).Sorted := sorted
  have conveyed : convey t.toDatum = t.toDatum :=
    Node.convey_toDatum faithful sortedNode ((Tree.floats_iff_node t).mp finite)
  have back := Node.ofDatum?_toDatum sortedNode
  rw [Node.toDatum, Node.ofDatum?_eq] at back
  obtain ⟨_, read, ⟨⟩⟩ := Option.map_eq_some_iff.mp back
  rw [conveyed, Tree.read_eq_ok]
  exact ⟨_, rfl, read⟩

theorem exists_read {d : Datum} :
    (∃ t, Tree.read d = .ok t) ↔ (∃ entries, d = .map entries) ∧ d.FormsNode ∧ d.Narrow := by
  constructor
  · rintro ⟨t, read⟩
    obtain ⟨entries, rfl, inner⟩ := Tree.read_eq_ok.mp read
    refine ⟨⟨entries, rfl⟩, Node.exists_ofDatum?.mp ⟨.tree t, ?_⟩⟩
    simp [Node.ofDatum?_eq, inner]
  · rintro ⟨⟨entries, rfl⟩, forms⟩
    obtain ⟨node, read⟩ := Node.exists_ofDatum?.mpr forms
    rw [Node.ofDatum?_eq] at read
    obtain ⟨t, inner, -⟩ := Option.map_eq_some_iff.mp read
    exact ⟨t, Tree.read_eq_ok.mpr ⟨entries, rfl, inner⟩⟩

theorem stands_read {d : Datum} {t : Tree} (read : Tree.read d = .ok t) {path : Path}
    (nonempty : path ≠ []) : Option.Rel Datum.Stands (d.at? path) (t.get? path) := by
  obtain ⟨entries, rfl, inner⟩ := Tree.read_eq_ok.mp read
  rw [Tree.get?_eq_at? t nonempty]
  exact Node.stands_at? (by simp [Node.ofDatum?_eq, inner]) path

theorem exists_ofYaml {text : String} :
    (∃ t, Tree.ofYaml text = .ok t) ↔ ∃ entries, Yaml.readMap text = .ok entries ∧
      (Datum.map entries).FormsNode ∧ (Datum.map entries).Narrow := by
  simp only [ofYaml_eq_ok]
  constructor
  · rintro ⟨t, entries, conveyed, read⟩
    exact ⟨entries, conveyed, (exists_read.mp ⟨t, read⟩).2⟩
  · rintro ⟨entries, conveyed, forms⟩
    obtain ⟨t, read⟩ := exists_read.mpr ⟨⟨entries, rfl⟩, forms⟩
    exact ⟨t, entries, conveyed, read⟩

/-- The form of documents is unambiguous. Through every faithful format a tree with finite floating
point values is read back from what it is written as. A document is read as a tree exactly when it
is a map that has the form of nodes and no integers of more than 64 bits, and at each path of the
tree then stands what that place of the document stands for: an integer where it fits 64 bits with
a sign, and a floating point value where it does not. YAML text may hold longer integers, JSON text
holds none. -/
theorem document_unambiguous {convey : Datum → Datum} (faithful : Datum.Faithful convey) :
    (∀ t : Tree, Tree.Sorted t → t.Floats (fun x => x.isFinite = true) →
      Tree.read (convey t.toDatum) = .ok t ∧ Tree.same t t = true) ∧
    (∀ d : Datum, ((∃ t, Tree.read d = .ok t) ↔
        (∃ entries, d = .map entries) ∧ d.FormsNode ∧ d.Narrow) ∧
      ∀ t, Tree.read d = .ok t → Tree.Sorted t ∧
        ∀ path, path ≠ [] → Option.Rel Datum.Stands (d.at? path) (t.get? path)) ∧
    (∀ text, (∃ t, Tree.ofYaml text = .ok t) ↔ ∃ entries, Yaml.readMap text = .ok entries ∧
      (Datum.map entries).FormsNode ∧ (Datum.map entries).Narrow) ∧
    ∀ text d, Json.read? text = some d →
      ((∃ t, Tree.read d = .ok t) ↔ (∃ entries, d = .map entries) ∧ d.FormsNode) := by
  refine ⟨fun t sorted finite => ⟨read_convey faithful sorted finite, ?_⟩,
    fun d => ⟨exists_read, fun t read => ⟨sorted_read read, fun path => stands_read read⟩⟩,
    fun text => exists_ofYaml, fun text d read => ?_⟩
  · exact same_self sorted fun path x found => Binary64.isNaN_of_isFinite (finite path x found)
  · rw [exists_read]
    simp [Json.narrow_read? read]

/-! Empty containers keep their kind, as do a whole floating point value and texts that look like
other values. -/

def lookalikes : Tree := [
  ("count", .scalar (.float ⟨0x3ff0000000000000⟩)), ("entries", .tree []),
  ("flag", .scalar (.text "true")), ("items", .list []), ("number", .scalar (.text "5"))]

def unsignedLimit : Datum := .map [(.text "limit", .int 18446744073709551615)]

theorem document_unambiguous_in_json :
    Datum.Faithful Json.held ∧ Tree.Sorted lookalikes ∧
      lookalikes.Floats (fun x => x.isFinite = true) ∧
      Tree.read (Json.held lookalikes.toDatum) = .ok lookalikes ∧
      ∃ t, Tree.read unsignedLimit = .ok t ∧
        Option.Rel Datum.Stands (some (.int 18446744073709551615)) (t.get? ["limit"]) := by
  have sorted : Tree.Sorted lookalikes := by decide
  have finite : lookalikes.Floats fun x => x.isFinite = true := by
    refine (floats_iff_node _).mpr (Node.floats_tree fun entry member => ?_)
    simp only [lookalikes, List.mem_cons, List.not_mem_nil, or_false] at member
    rcases member with rfl | rfl | rfl | rfl | rfl
    · exact Node.floats_scalar fun x same => Scalar.float.inj same ▸ by decide
    · exact Node.floats_tree nofun
    · exact Node.floats_scalar nofun
    · exact Node.floats_list []
    · exact Node.floats_scalar nofun
  obtain ⟨back, reads, -, -⟩ := document_unambiguous Json.faithful_held
  obtain ⟨readable, placed⟩ := reads unsignedLimit
  obtain ⟨t, read⟩ := readable.mpr ⟨⟨_, rfl⟩, .map (by simp) (by simpa using .int _),
    .map (by simpa using .int _ rfl)⟩
  exact ⟨Json.faithful_held, sorted, finite, (back lookalikes sorted finite).1, t, read,
    (placed t read).2 ["limit"] (by simp)⟩

/-! An integer of 65 bits is a number like any other, and YAML text conveys it as it is. -/

def isWideLimit : List (Datum × Datum) → Bool
  | [(.text "limit", .int i)] => i == 18446744073709551616
  | _ => false

theorem eq_of_isWideLimit {entries : List (Datum × Datum)} (wide : isWideLimit entries = true) :
    entries = [(.text "limit", .int 18446744073709551616)] := by
  unfold isWideLimit at wide
  split at wide
  next i => rw [eq_of_beq wide]
  next => cases wide

theorem wide_integer_refused : ∃ entries : List (Datum × Datum),
    Yaml.readMap "limit: 18446744073709551616\n" = .ok entries ∧ (Datum.map entries).FormsNode ∧
      ¬ ∃ t, Tree.read (.map entries) = .ok t := by
  have conveyed :
      (Yaml.readMap "limit: 18446744073709551616\n").toOption.any isWideLimit = true := by
    decide +kernel
  obtain ⟨entries, read, wide⟩ := (Option.any_eq_true ..).mp conveyed
  obtain rfl := eq_of_isWideLimit wide
  refine ⟨_, toOption_eq_some.mp read, .map ?_ ?_, ?_⟩
  · simp
  · simpa using .int _
  · rintro ⟨t, found⟩
    cases found

end Tree

end ObservedConfig
