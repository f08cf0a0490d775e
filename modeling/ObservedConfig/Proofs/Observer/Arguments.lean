import ObservedConfig.Proofs.Observer.ExternalOidc

/-! The arguments of external providers as a slice of the configuration. The workload refuses both
styles of arguments at once, and an issuer without a client. `WellFormed` says that a tree sets the
arguments of one style only and none of them by halves; every fragment of the observer is so. -/
namespace ObservedConfig

theorem Tree.sorted_ofList {bindings : List (String × Node)}
    (sorted : ∀ binding ∈ bindings, binding.2.Sorted) : Tree.Sorted (Entries.ofList bindings) := by
  suffices general : ∀ t, Tree.Sorted t → Tree.Sorted
      (bindings.foldl (fun entries binding => Entries.insert binding.1 binding.2 entries) t) by
    exact general [] trivial
  induction bindings with
  | nil => exact fun _ ordered => ordered
  | cons binding rest ih =>
    obtain ⟨here, later⟩ := List.forall_mem_cons.mp sorted
    exact fun t ordered => ih later _ (Tree.sorted_insert ordered here)

namespace ExternalOidc

open Authentication (Provider Client)

namespace Arguments

variable (arguments : Arguments)

theorem sorted_entries : Tree.Sorted [(argumentsKey,
    .tree (Entries.ofList (arguments.map fun (argument, values) => (argument, .list values))))] := by
  refine ⟨by simp, ?_, trivial⟩
  apply Tree.sorted_ofList
  intro binding member
  obtain ⟨argument, -, rfl⟩ := List.mem_map.mp member
  trivial

theorem sorted_toTree : Tree.Sorted (toTree arguments) := Tree.sorted_pruned (sorted_entries arguments)

theorem find?_entries (distinct : (arguments.map (·.1)).Nodup) (argument : String) :
    Entries.find? argument (Entries.ofList
      (arguments.map fun (argument, values) => (argument, Node.list values))) =
        (Entries.find? argument arguments).map Node.list := by
  have keys : ((arguments.map fun (argument, values) => (argument, Node.list values)).map (·.1)) =
      arguments.map (·.1) := by
    simp [Function.comp_def]
  rw [Entries.find?_ofList (keys ▸ distinct)]
  exact Entries.find?_map argument Node.list arguments

/-- An argument is in the tree when it is in the list and has a value. -/
theorem get?_toTree (distinct : (arguments.map (·.1)).Nodup) (argument : String) :
    Tree.get? (toTree arguments) [argumentsKey, argument] =
      (Entries.find? argument arguments).bind fun values => (Node.list values).kept := by
  rw [toTree, Tree.get?_pruned (sorted_entries arguments), Tree.get?_cons]
  simp only [Entries.find?_cons, if_true, Option.bind_some, Node.at?_tree_cons,
    find?_entries arguments distinct]
  cases Entries.find? argument arguments <;> simp

end Arguments

def singleNames : List String := [issuerUrl, clientId, usernameClaim, groupsClaim, groupsPrefix,
  usernamePrefix, requiredClaim, caFile]

theorem unlessEmpty_names (argument value : String) :
    ((unlessEmpty argument value).map (·.1)).Sublist [argument] := by
  unfold unlessEmpty
  split <;> simp

theorem prefixArgument_names (m : Authentication.UsernameMapping) :
    ((prefixArgument m).map (·.1)).Sublist [usernamePrefix] := by
  unfold prefixArgument
  split <;> simp

theorem arguments_names (s : Settings) (p : Provider) (client : Client) :
    ((arguments s p client).map (·.1)).Sublist singleNames := by
  have split : singleNames = [issuerUrl] ++ [clientId] ++ [usernameClaim] ++ [groupsClaim] ++
      [groupsPrefix] ++ [usernamePrefix] ++ [requiredClaim] ++ [caFile] := rfl
  have file : ((if p.issuer.certificateAuthority.isEmpty then []
      else [(caFile, [s.caBundle.path])]).map (·.1)).Sublist [caFile] := by
    split <;> simp
  simp only [arguments, List.map_append, split]
  exact ((((((List.Sublist.refl _).append (unlessEmpty_names _ _)).append
    (unlessEmpty_names _ _)).append (unlessEmpty_names _ _)).append (unlessEmpty_names _ _)).append
    (prefixArgument_names _)).append (List.Sublist.refl _) |>.append file

theorem arguments_distinct (s : Settings) (p : Provider) (client : Client) :
    ((arguments s p client).map (·.1)).Nodup :=
  List.Nodup.sublist (arguments_names s p client) (by decide)

/-- An argument is set when it has at least one value. -/
def IsSet (t : Tree) (argument : String) : Prop :=
  ∃ values, t.get? [argumentsKey, argument] = some (.list values) ∧ values ≠ []

/-- Each argument is absent or a sequence, and the arguments that are set are of one style: none,
the structured file alone, or at least an issuer and its client without the file. -/
structure WellFormed (t : Tree) : Prop where
  lists : ∀ argument ∈ argumentNames, ∀ node, t.get? [argumentsKey, argument] = some node →
    ∃ values, node = .list values
  style : (∀ argument ∈ argumentNames, ¬ IsSet t argument) ∨
    (∀ argument ∈ argumentNames, IsSet t argument ↔ argument = structuredFile) ∨
    (¬ IsSet t structuredFile ∧ IsSet t issuerUrl ∧ IsSet t clientId)

theorem ne_nil_of_owned {p : Path} (member : p ∈ owned) : p ≠ [] := by
  obtain ⟨argument, -, rfl⟩ := List.mem_map.mp member
  simp

theorem covered_owned {argument : String} (member : argument ∈ argumentNames) :
    Path.Covered owned [argumentsKey, argument] :=
  ⟨_, List.mem_map_of_mem member, by simp, List.prefix_rfl⟩

theorem kept_eq_list {node : Node} {values : List String} :
    node.kept = some (.list values) ↔ node = .list values ∧ values ≠ [] := by
  cases node with
  | tree t =>
    simp only [reduceCtorEq, false_and, iff_false]
    intro kept
    cases (Node.kept_eq_some kept).1
  | list other =>
    rw [Node.kept_leaf rfl]
    cases other <;> cases values <;> simp [Node.isEmptyContainer]
  | scalar value =>
    rw [Node.kept_leaf rfl]
    simp [Node.isEmptyContainer]

/-- Two trees that show the same arguments up to pruning set the same ones. -/
theorem isSet_kept {t u : Tree} {argument : String}
    (same : u.get? [argumentsKey, argument] =
      (t.get? [argumentsKey, argument]).bind Node.kept) : IsSet u argument ↔ IsSet t argument := by
  unfold IsSet
  rw [same]
  constructor
  · rintro ⟨values, found, nonempty⟩
    obtain ⟨node, found, kept⟩ := Option.bind_eq_some_iff.mp found
    obtain ⟨rfl, -⟩ := kept_eq_list.mp kept
    exact ⟨values, found, nonempty⟩
  · rintro ⟨values, found, nonempty⟩
    exact ⟨values, by rw [found, Option.bind_some, kept_eq_list.mpr ⟨rfl, nonempty⟩], nonempty⟩

theorem WellFormed.of_kept {t u : Tree} (wellFormed : WellFormed t)
    (same : ∀ argument ∈ argumentNames, u.get? [argumentsKey, argument] =
      (t.get? [argumentsKey, argument]).bind Node.kept) : WellFormed u where
  lists := by
    intro argument member node found
    rw [same argument member] at found
    obtain ⟨former, found, kept⟩ := Option.bind_eq_some_iff.mp found
    obtain ⟨values, rfl⟩ := wellFormed.lists argument member former found
    obtain ⟨rfl, -⟩ := Node.kept_eq_some kept
    exact ⟨values, rfl⟩
  style := by
    have set : ∀ argument ∈ argumentNames, IsSet u argument ↔ IsSet t argument :=
      fun argument member => isSet_kept (same argument member)
    rcases wellFormed.style with unset | structured | ⟨noFile, issuer, client⟩
    · exact .inl fun argument member => (not_congr (set argument member)).mpr (unset argument member)
    · exact .inr (.inl fun argument member =>
        (set argument member).trans (structured argument member))
    · exact .inr (.inr ⟨(not_congr (set structuredFile (by decide))).mpr noFile,
        (set issuerUrl (by decide)).mpr issuer, (set clientId (by decide)).mpr client⟩)

theorem wellFormed_empty : WellFormed [] where
  lists := by
    intro argument _ node found
    simp [Tree.get?_cons] at found
  style := by
    left
    rintro argument _ ⟨values, found, -⟩
    simp [Tree.get?_cons] at found

theorem isSet_toTree {arguments : Arguments} (distinct : (arguments.map (·.1)).Nodup)
    (argument : String) : IsSet (Arguments.toTree arguments) argument ↔
      ∃ values, Entries.find? argument arguments = some values ∧ values ≠ [] := by
  unfold IsSet
  rw [Arguments.get?_toTree arguments distinct]
  constructor
  · rintro ⟨values, found, nonempty⟩
    obtain ⟨listed, found, kept⟩ := Option.bind_eq_some_iff.mp found
    obtain ⟨same, -⟩ := kept_eq_list.mp kept
    injection same with same
    exact ⟨values, same ▸ found, nonempty⟩
  · rintro ⟨values, found, nonempty⟩
    exact ⟨values, by rw [found, Option.bind_some, kept_eq_list.mpr ⟨rfl, nonempty⟩], nonempty⟩

theorem lists_toTree {arguments : Arguments} (distinct : (arguments.map (·.1)).Nodup)
    {argument : String} {node : Node}
    (found : Tree.get? (Arguments.toTree arguments) [argumentsKey, argument] = some node) :
    ∃ values, node = .list values := by
  rw [Arguments.get?_toTree arguments distinct] at found
  obtain ⟨values, -, kept⟩ := Option.bind_eq_some_iff.mp found
  obtain ⟨rfl, -⟩ := Node.kept_eq_some kept
  exact ⟨values, rfl⟩

/-- A client that passes the checks has an ID. -/
theorem clientId_of_checked {s : Settings} {p : Provider} {structured : Bool} {client : Client}
    (checked : checkProvider s p structured = .ok client) : client.clientId.isEmpty = false := by
  obtain ⟨-, clean⟩ := checkProvider_eq_ok.mp checked
  simp only [fieldErrors, List.append_eq_nil_iff] at clean
  obtain ⟨⟨⟨-, clean⟩, -⟩, -⟩ := clean
  unfold clientErrors at clean
  split at clean
  · cases clean
  next filled => simpa using filled

theorem find?_issuerUrl (s : Settings) (p : Provider) (client : Client) :
    Entries.find? issuerUrl (arguments s p client) = some [p.issuer.url] := rfl

theorem find?_clientId (s : Settings) (p : Provider) {client : Client}
    (filled : client.clientId.isEmpty = false) :
    Entries.find? clientId (arguments s p client) = some [client.clientId] := by
  simp [arguments, unlessEmpty, filled, Entries.find?_cons,
    show clientId ≠ issuerUrl by decide]

theorem find?_structuredFile (s : Settings) (p : Provider) (client : Client) :
    Entries.find? structuredFile (arguments s p client) = none := by
  apply Entries.find?_eq_none_of_not_mem
  intro member
  exact absurd ((arguments_names s p client).subset member) (by decide)

/-- What is derived from a provider that passes the checks is of one style. -/
theorem wellFormed_candidate {s : Settings} {p : Provider} {structured : Bool} {client : Client}
    (checked : checkProvider s p structured = .ok client) :
    WellFormed (candidate s p client structured) := by
  cases structured with
  | true =>
    have distinct : ([(structuredFile, [s.authConfig.path])].map (·.1)).Nodup := by simp
    refine ⟨fun argument _ node found => lists_toTree distinct found, .inr (.inl ?_)⟩
    intro argument _
    rw [candidate, if_pos rfl, isSet_toTree distinct]
    by_cases same : argument = structuredFile
    · simp [same, Entries.find?_cons]
    · simp [same, Entries.find?_cons]
  | false =>
    have distinct := arguments_distinct s p client
    refine ⟨fun argument _ node found => lists_toTree distinct found, .inr (.inr ?_)⟩
    simp only [candidate, Bool.false_eq_true, if_false, isSet_toTree distinct, find?_issuerUrl,
      find?_clientId s p (clientId_of_checked checked), find?_structuredFile]
    simp

theorem sorted_candidate (s : Settings) (p : Provider) (client : Client) (structured : Bool) :
    Tree.Sorted (candidate s p client structured) := by
  unfold candidate
  split <;> exact Arguments.sorted_toTree _

/-- Cutting a candidate down to the arguments keeps its style. -/
theorem wellFormed_of_restricts {s : Settings} {p : Provider} {structured : Bool} {client : Client}
    {f : Tree} (checked : checkProvider s p structured = .ok client)
    (restricts : (candidate s p client structured).Restricts owned f) : WellFormed f :=
  (wellFormed_candidate checked).of_kept fun _ member =>
    restricts.get? (sorted_candidate s p client structured) (covered_owned member)

variable {ctx : Context} {existing : Tree} {d : Decision}

/-- A fragment is the whole committed configuration, or a sorted tree with arguments of one style. -/
theorem fragment_cases (decided : decide ctx existing = .ok d) :
    d.fragment = existing ∨ (Tree.Sorted d.fragment ∧ WellFormed d.fragment) := by
  obtain ⟨i, intended, settled⟩ := decide_eq_ok decided
  cases intends intended with
  | keep =>
    cases settled
    exact .inl rfl
  | reset =>
    simp only [Intent.settle, bind_eq_ok, pure_eq_ok] at settled
    obtain ⟨_, -, rfl⟩ := settled
    exact .inr ⟨Tree.sorted_nil, wellFormed_empty⟩
  | derive gated found kind sole derives =>
    simp only [Intent.settle, bind_eq_ok, pure_eq_ok, failing_eq_ok, orError_eq_ok] at settled
    obtain ⟨outcome, compared, rfl⟩ := settled
    rw [derives.candidate_eq] at compared
    have restricts := Slice.restricts_of_diff (sorted_candidate _ _ _ _) compared
    exact .inr ⟨restricts.sorted, wellFormed_of_restricts derives.checked restricts⟩

theorem sorted_fragment (sorted : Tree.Sorted existing) (decided : decide ctx existing = .ok d) :
    Tree.Sorted d.fragment := by
  rcases fragment_cases decided with same | ⟨derived, -⟩
  · rwa [same]
  · exact derived

theorem wellFormed_fragment (wellFormed : WellFormed existing)
    (decided : decide ctx existing = .ok d) : WellFormed d.fragment := by
  rcases fragment_cases decided with same | ⟨-, derived⟩
  · rwa [same]
  · exact derived

end ExternalOidc

end ObservedConfig
