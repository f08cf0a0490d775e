import ObservedConfig.Json.Reader
import ObservedConfig.Proofs.Datum
import ObservedConfig.Proofs.Entries

/-! JSON documents. What is read from JSON text holds no integer of more than 64 bits, since longer
ones are read as floating point values. -/
namespace ObservedConfig

namespace Datum

theorem Narrow.of_object {fields : List (String × Datum)}
    (each : ∀ field ∈ fields, Narrow field.2) : Narrow (.object fields) := by
  refine .map fun entry member => ?_
  obtain ⟨field, listed, rfl⟩ := List.mem_map.mp member
  exact each field listed

end Datum

namespace Json

theorem integerDigits_le {digits : List Char} {m : Magnitude} {dropped : Bool}
    (bound : m.significand ≤ maxSignificand) :
    (integerDigits digits m dropped).1.significand ≤ maxSignificand := by
  induction digits generalizing m dropped with
  | nil => exact bound
  | cons c rest ih =>
    rw [integerDigits]
    split
    next => exact ih bound
    next fits =>
      simp only [Bool.or_eq_true, decide_eq_true_eq, not_or, Nat.not_lt] at fits
      exact ih fits.2

/-- A number is an integer only when it fits 64 bits. -/
theorem narrow_number? {negative negativeExponent : Bool} {whole : List Char}
    {fraction exponent : Option (List Char)} {d : Datum}
    (read : number? negative whole fraction exponent negativeExponent = some d) : d.Narrow := by
  have floating {m : Magnitude} {negate : Float → Float}
      (read : m.toFloat?.map (fun x => Datum.float (.ofFloat (negate x))) = some d) : d.Narrow := by
    obtain ⟨x, -, rfl⟩ := Option.map_eq_some_iff.mp read
    exact .float _
  have integer {i : Int} (lower : -0x8000000000000000 ≤ i) (upper : i < 0x10000000000000000) :
      (Datum.int i).Narrow := .int i (by simp [Datum.fits64, lower, upper])
  have bound : (integerDigits whole ⟨0, 0⟩ false).1.significand ≤ maxSignificand :=
    integerDigits_le (Nat.zero_le _)
  simp only [maxSignificand] at bound
  unfold number? at read
  dsimp only at read
  split at read
  next =>
    split at read
    next => exact floating read
    next =>
      split at read
      next =>
        cases read
        exact integer (by omega) (by omega)
      next =>
        split at read
        next small =>
          cases read
          simp only [Bool.and_eq_true, decide_eq_true_eq] at small
          exact integer (by omega) (by omega)
        next => exact floating read
  next => exact floating read

theorem narrow_numeral? {cs rest : List Char} {d : Datum} (read : numeral? cs = some (d, rest)) :
    d.Narrow := by
  obtain ⟨_, -, read⟩ := Option.bind_eq_some_iff.mp read
  dsimp only at read
  split at read
  · cases read
  · obtain ⟨_, -, read⟩ := Option.bind_eq_some_iff.mp read
    obtain ⟨_, -, read⟩ := Option.bind_eq_some_iff.mp read
    obtain ⟨_, number, ⟨⟩⟩ := Option.bind_eq_some_iff.mp read
    exact narrow_number? number

/-- A value, the items of an array and the members of an object are read with each other, so one
induction on the steps that are left carries all three. -/
theorem narrow_value? (fuel : Nat) :
    (∀ cs d rest, value? fuel cs = some (d, rest) → d.Narrow) ∧
    (∀ cs items rest, items? fuel cs = some (items, rest) → ∀ item ∈ items, item.Narrow) ∧
    ∀ cs members rest, members? fuel cs = some (members, rest) →
      ∀ member ∈ members, member.2.Narrow := by
  induction fuel with
  | zero => simp [value?, items?, members?]
  | succ fuel ih =>
    obtain ⟨values, itemLists, memberLists⟩ := ih
    refine ⟨fun cs d rest read => ?_, fun cs items rest read => ?_, fun cs members rest read => ?_⟩
    · rw [value?] at read
      split at read
      · cases read
        exact .null
      · cases read
        exact .bool true
      · cases read
        exact .bool false
      · obtain ⟨_, -, ⟨⟩⟩ := Option.map_eq_some_iff.mp read
        exact .text _
      · split at read
        · cases read
          exact .seq nofun
        · obtain ⟨_, inner, ⟨⟩⟩ := Option.map_eq_some_iff.mp read
          exact .seq (itemLists _ _ _ inner)
      · split at read
        · cases read
          exact .map nofun
        · obtain ⟨_, inner, ⟨⟩⟩ := Option.map_eq_some_iff.mp read
          exact .of_object fun field listed =>
            memberLists _ _ _ inner field (Entries.mem_ofList listed)
      · exact narrow_numeral? read
    · rw [items?] at read
      obtain ⟨⟨item, after⟩, head, read⟩ := Option.bind_eq_some_iff.mp read
      dsimp only at read
      have here := values _ _ _ head
      split at read
      · obtain ⟨⟨_, _⟩, tail, ⟨⟩⟩ := Option.map_eq_some_iff.mp read
        exact List.forall_mem_cons.mpr ⟨here, itemLists _ _ _ tail⟩
      · cases read
        simpa using here
      · cases read
    · rw [members?] at read
      split at read
      · obtain ⟨⟨name, afterName⟩, -, read⟩ := Option.bind_eq_some_iff.mp read
        dsimp only at read
        split at read
        · obtain ⟨⟨value, after⟩, head, read⟩ := Option.bind_eq_some_iff.mp read
          dsimp only at read
          have here := values _ _ _ head
          split at read
          · obtain ⟨⟨_, _⟩, tail, ⟨⟩⟩ := Option.map_eq_some_iff.mp read
            exact List.forall_mem_cons.mpr ⟨here, memberLists _ _ _ tail⟩
          · cases read
            simpa using here
          · cases read
        · cases read
      · cases read

/-- JSON text holds no wide integers. -/
theorem narrow_read? {text : String} {d : Datum} (read : read? text = some d) : d.Narrow := by
  unfold read? at read
  dsimp only at read
  split at read
  next value rest inner =>
    split at read
    · cases read
      exact (narrow_value? _).1 _ _ _ inner
    · cases read
  next => cases read

end Json

end ObservedConfig
