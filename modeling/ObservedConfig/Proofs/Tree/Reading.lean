import ObservedConfig.Proofs.Datum
import ObservedConfig.Proofs.Result
import ObservedConfig.Proofs.Tree.Updating
import ObservedConfig.Tree.Document

/-! Reading trees from documents. The kinds of nodes are tried in turn, but what a datum is read as
depends on its form alone: no form is accepted by two kinds, but for integers that fit 64 bits with
a sign, and those are tried as integers first. A map is read when all its entries are, and holds the
last value of each name. Trees that are read are sorted, whatever order the documents have. -/
namespace ObservedConfig

/-- Trying the kinds of nodes in turn comes to one of them for each form. -/
theorem Node.ofDatum?_eq (d : Datum) :
    Node.ofDatum? d = match d with
      | .seq items => (Datum.allTexts? items).map .list
      | .bool b => some (.scalar (.bool b))
      | .int i =>
        if Datum.fitsInt64 i then some (.scalar (.int (.ofInt i)))
        else if Datum.fits64 i then some (.scalar (.float (.ofInt i)))
        else none
      | .float x => some (.scalar (.float x))
      | .text s => some (.scalar (.text s))
      | .map entries => (Tree.ofEntries? entries []).map .tree
      | .null => none
      | .tagged _ _ => none := by
  cases d with
  | int i =>
    by_cases signed : Datum.fitsInt64 i = true <;> by_cases fits : Datum.fits64 i = true <;>
      simp [ofDatum?, leaf?, Scalar.ofDatum?, Datum.texts?, Datum.bool?, Datum.int64?, Datum.float?,
        Datum.text?, signed, fits]
  | null | bool | float | text | seq | map | tagged =>
    simp [ofDatum?, leaf?, Scalar.ofDatum?, Datum.texts?, Datum.bool?, Datum.int64?, Datum.float?,
      Datum.text?]

namespace Tree

/-- A map is read when every entry has a text as its key and a value that is read. -/
theorem exists_ofEntries? {entries : List (Datum × Datum)} {t : Tree} :
    (∃ u, ofEntries? entries t = some u) ↔ ∀ entry ∈ entries,
      (∃ name, entry.1 = .text name) ∧ ∃ node, Node.ofDatum? entry.2 = some node := by
  induction entries generalizing t with
  | nil => simp [ofEntries?]
  | cons entry rest ih =>
    obtain ⟨key, value⟩ := entry
    rw [List.forall_mem_cons]
    cases key with
    | text name =>
      cases read : Node.ofDatum? value with
      | none => simp [ofEntries?, read]
      | some node => simp [ofEntries?, read, ih]
    | null | bool | int | float | seq | map | tagged => simp [ofEntries?]

/-- A map that is read holds the last value of each name. -/
theorem find?_ofEntries? {entries : List (Datum × Datum)} {t u : Tree}
    (read : ofEntries? entries t = some u) (name : String) :
    Entries.find? name u =
      match Datum.last? name entries with
      | some value => Node.ofDatum? value
      | none => Entries.find? name t := by
  induction entries generalizing t with
  | nil =>
    cases read
    rfl
  | cons entry rest ih =>
    obtain ⟨⟨⟨key, textual⟩, node, here⟩, later⟩ :=
      List.forall_mem_cons.mp (exists_ofEntries?.mp ⟨u, read⟩)
    obtain ⟨_, value⟩ := entry
    obtain rfl := textual
    simp only [ofEntries?, here] at read
    rw [ih read, Datum.last?]
    cases Datum.last? name rest with
    | some last => rfl
    | none =>
      by_cases same : name = key
      · subst same
        simp [here]
      · simp [same, Entries.find?_insert_other same]

/-- Reading a map adds its entries to a sorted tree one by one. -/
theorem sorted_ofEntries? {entries : List (Datum × Datum)} {t u : Tree}
    (nodes : ∀ entry ∈ entries, ∀ node, Node.ofDatum? entry.2 = some node → node.Sorted)
    (sorted : Tree.Sorted t) (read : ofEntries? entries t = some u) : Tree.Sorted u := by
  induction entries generalizing t with
  | nil =>
    cases read
    exact sorted
  | cons entry rest ih =>
    obtain ⟨here, later⟩ := List.forall_mem_cons.mp nodes
    unfold ofEntries? at read
    split at read
    next nil => cases nil
    next name value tail _ same =>
      obtain ⟨rfl, rfl⟩ := List.cons.inj same
      split at read
      next node found => exact ih later (sorted_insert sorted (here node found)) read
      next => cases read
    next => cases read

end Tree

theorem Node.sorted_ofDatum? {d : Datum} {node : Node} (read : Node.ofDatum? d = some node) :
    node.Sorted := by
  induction d using Datum.induction generalizing node with
  | map entries ih =>
    rw [Node.ofDatum?_eq] at read
    obtain ⟨t, inner, rfl⟩ := Option.map_eq_some_iff.mp read
    exact Tree.sorted_ofEntries? (fun entry member node => ih entry member) Tree.sorted_nil inner
  | seq items =>
    rw [Node.ofDatum?_eq] at read
    obtain ⟨values, -, rfl⟩ := Option.map_eq_some_iff.mp read
    trivial
  | int i =>
    rw [Node.ofDatum?_eq] at read
    dsimp only at read
    split at read
    · cases read
      trivial
    · split at read <;> cases read
      trivial
  | bool | float | text =>
    rw [Node.ofDatum?_eq] at read
    cases read
    trivial
  | null | tagged =>
    rw [Node.ofDatum?_eq] at read
    cases read

theorem Tree.read_eq_ok {d : Datum} {t : Tree} :
    Tree.read d = .ok t ↔ ∃ entries, d = .map entries ∧ ofEntries? entries [] = some t := by
  cases d with
  | map entries =>
    simp only [Tree.read, Datum.map.injEq, exists_eq_left']
    cases ofEntries? entries [] <;> simp
  | null | bool | int | float | text | seq | tagged => simp [Tree.read]

theorem Tree.sorted_read {d : Datum} {t : Tree} (read : Tree.read d = .ok t) : Tree.Sorted t := by
  obtain ⟨entries, rfl, inner⟩ := Tree.read_eq_ok.mp read
  exact Tree.sorted_ofEntries? (fun _ _ _ => Node.sorted_ofDatum?) Tree.sorted_nil inner

/-- A tree is read from YAML text as it is from the map the text holds. -/
theorem Tree.ofYaml_eq_ok {text : String} {t : Tree} :
    Tree.ofYaml text = .ok t ↔
      ∃ entries, Yaml.readMap text = .ok entries ∧ Tree.read (.map entries) = .ok t := by
  simp only [Tree.ofYaml, bind_eq_ok]
  refine exists_congr fun entries => and_congr_right fun _ => ?_
  simp only [Tree.read]
  cases ofEntries? entries [] <;> simp [pure, Except.pure, throw, throwThe, MonadExceptOf.throw]

theorem Tree.sorted_ofYaml {text : String} {t : Tree} (read : Tree.ofYaml text = .ok t) :
    Tree.Sorted t := by
  obtain ⟨entries, -, inner⟩ := Tree.ofYaml_eq_ok.mp read
  exact Tree.sorted_read inner

end ObservedConfig
