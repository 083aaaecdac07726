/-!
# UTF-8

The longest well-formed beginning of a list of bytes: a character takes one to four bytes, is never
written longer than it need be, and is no surrogate.

## Main definitions

* `utf8Head?` — the first character, and the bytes after it
* `utf8Beginning` — the characters of the well-formed beginning, and how many bytes they take
* `utf8Text` — the text, or where it stops being one
-/

namespace Baseball

/-- The six bits a continuation byte carries. -/
def continuation? (b : UInt8) : Option Nat :=
  let n := b.toNat
  if 0x80 ≤ n ∧ n < 0xC0 then some (n - 0x80) else none

/-- The character with a number, if the number is that of a character and has no shorter form. -/
def charFrom? (least n : Nat) : Option Char :=
  if h : n.isValidChar then if least ≤ n then some (Char.ofNatAux n h) else none else none

/-- The first character of a list of bytes, how many bytes it takes, and the bytes after it. -/
def utf8Head? : List UInt8 → Option (Char × Nat × List UInt8)
  | [] => none
  | a :: rest =>
    let n := a.toNat
    if n < 0x80 then (charFrom? 0 n).map (·, 1, rest)
    else if n < 0xC0 then none
    else if n < 0xE0 then
      match rest with
      | b :: rest => do
        let x ← continuation? b
        let c ← charFrom? 0x80 ((n - 0xC0) * 0x40 + x)
        return (c, 2, rest)
      | _ => none
    else if n < 0xF0 then
      match rest with
      | b :: b' :: rest => do
        let x ← continuation? b
        let x' ← continuation? b'
        let c ← charFrom? 0x800 (((n - 0xE0) * 0x40 + x) * 0x40 + x')
        return (c, 3, rest)
      | _ => none
    else if n < 0xF8 then
      match rest with
      | b :: b' :: b'' :: rest => do
        let x ← continuation? b
        let x' ← continuation? b'
        let x'' ← continuation? b''
        let c ← charFrom? 0x10000 ((((n - 0xF0) * 0x40 + x) * 0x40 + x') * 0x40 + x'')
        return (c, 4, rest)
      | _ => none
    else none

theorem length_lt_of_utf8Head? {bs rest : List UInt8} {c : Char} {n : Nat}
    (h : utf8Head? bs = some (c, n, rest)) : rest.length < bs.length := by
  unfold utf8Head? at h
  split at h
  · simp at h
  · simp only [Option.pure_def, Option.bind_eq_bind] at h
    repeat' split at h
    all_goals
      simp only [Option.map_eq_some_iff, Option.bind_eq_some_iff, Prod.mk.injEq, Option.some.injEq,
        reduceCtorEq] at h
    all_goals
      try
        simp only [List.length_cons]
        obtain ⟨_, _, h⟩ := h
        grind

/-- The characters of the well-formed beginning of some bytes, and how many bytes they take. -/
def utf8Beginning (bs : List UInt8) : List Char × Nat :=
  match h : utf8Head? bs with
  | none => ([], 0)
  | some (c, n, rest) =>
    have := length_lt_of_utf8Head? h
    let (cs, m) := utf8Beginning rest
    (c :: cs, n + m)
termination_by bs.length

/-- The text that some bytes are, or how many of them are well formed. -/
def utf8Text (bs : List UInt8) : Except Nat String :=
  let (cs, n) := utf8Beginning bs
  if n = bs.length then .ok (.ofList cs) else .error n

end Baseball
