import ObservedConfig.Text.Part

/-! Punycode: text beyond ASCII in ASCII letters and digits. The ASCII characters come first; the
others follow as differences in increasing order of their code points. A difference is a number in
base 36 whose digits have weights that adapt to the differences before it. -/
namespace ObservedConfig.Url.Punycode

def digit? (c : Char) : Option Nat :=
  if 'a' ≤ c ∧ c ≤ 'z' then some (c.toNat - 'a'.toNat)
  else if 'A' ≤ c ∧ c ≤ 'Z' then some (c.toNat - 'A'.toNat)
  else if c.isDigit then some (c.toNat - '0'.toNat + 26)
  else none

/-- A digit below the threshold of its place is the last of its number. -/
def threshold (place bias : Nat) : Nat := min 26 (max 1 (place - bias))

def difference? (bias : Nat) : Nat → Nat → Nat → List Char → Option (Nat × List Char)
  | _, _, _, [] => none
  | place, weight, sum, c :: cs => do
    let digit ← digit? c
    let sum := sum + digit * weight
    let limit := threshold place bias
    if digit < limit then some (sum, cs)
    else difference? bias (place + 36) (weight * (36 - limit)) sum cs

theorem difference?_length {bias place weight sum n : Nat} {cs rest : List Char}
    (h : difference? bias place weight sum cs = some (n, rest)) : rest.length < cs.length := by
  fun_induction difference? bias place weight sum cs with
  | case1 => simp at h
  | case2 place weight sum c cs ih =>
    simp only [Option.bind_eq_bind, Option.bind_eq_some_iff] at h
    obtain ⟨digit, _, h⟩ := h
    split at h
    · simp_all
    · exact Nat.lt_succ_of_lt (ih digit h)

/-- Large differences are brought down in steps of 35. -/
def damped (delta steps : Nat) : Nat :=
  if 455 < delta then damped (delta / 35) (steps + 36)
  else steps + 36 * delta / (delta + 38)
termination_by delta
decreasing_by omega

def adapted (delta length : Nat) (first : Bool) : Nat :=
  let delta := if first then delta / 700 else delta / 2
  damped (delta + delta / length) 0

/-- Adds the characters that differences stand for to the ones found so far. A difference runs over
the places of the text and then over the code points, from the last place and code point on. -/
def extend? (found : List Char) (bias place code : Nat) (cs : List Char) : Option (List Char) :=
  if cs.isEmpty then some found
  else match step : difference? bias 36 1 0 cs with
    | none => none
    | some (delta, rest) =>
      let length := found.length + 1
      let code := code + (place + delta) / length
      let index := (place + delta) % length
      if code < 0xd800 || (0xdfff < code && code ≤ 0x10ffff) then
        extend? (found.take index ++ Char.ofNat code :: found.drop index)
          (adapted delta length (place == 0)) (index + 1) code rest
      else none
termination_by cs.length
decreasing_by exact difference?_length step

/-- Characters before the last hyphen stand for themselves, unless nothing is before it. -/
def decode? (cs : List Char) : Option (List Char) :=
  let (plain, differences) := match Text.splitAtLast? '-' cs with
    | some (c :: plain, differences) => (c :: plain, differences)
    | _ => ([], cs)
  extend? plain 72 0 128 differences

end ObservedConfig.Url.Punycode
