import DeviceLink.Wire.Field
/-!
# Fields are read back

What is written at the front of a text is read back from there, whatever follows it: a number in
base 128, the key of a field, a payload. A number may be spelled in more than one way, for zeros may
stand above its highest digit; how it is spelled makes no difference to the reader
(`varintFrom_digits`), so a field is read from any of its spellings (`fieldsFrom_cons`). Fields come
back as they went in, how deep they may nest or not (`fields?_spelling`), as long as each of them
fits the wire: numbers are words of 64 bits, and the length of data is one.
-/
namespace DeviceLink.Wire

/-! ## Numbers in base 128 -/

/-- Digits of a number, the lowest first, each marked when another one follows. -/
inductive Digits : Nat → Bytes → Prop
  | last {b : UInt8} (unmarked : b.toNat < 128) : Digits b.toNat [b]
  | more {b : UInt8} {n : Nat} {bs : Bytes} (marked : 128 ≤ b.toNat) (higher : Digits n bs) :
      Digits (b.toNat - 128 + 128 * n) (b :: bs)

/-- A spelling of a word of 64 bits, in ten digits at most. -/
structure Spells (n : Nat) (bs : Bytes) : Prop where
  digits : Digits n bs
  short  : bs.length ≤ 10
  word   : n < Nat.pow 2 64

theorem Digits.length_pos {n : Nat} {bs : Bytes} (digits : Digits n bs) : 0 < bs.length := by
  cases digits <;> simp

/-- A digit carries seven bits; of the last one possible one bit is left. -/
theorem pow_more (more : Nat) :
    Nat.pow 2 (7 * (more + 1) + 1) = Nat.pow 2 (7 * more + 1) * 128 := by
  rw [Nat.pow_eq, Nat.pow_eq, show 7 * (more + 1) + 1 = 7 * more + 1 + 7 by omega, Nat.pow_add]

theorem varintFrom_digits {n : Nat} {bs : Bytes} (digits : Digits n bs) (rest : Bytes) :
    ∀ more, bs.length ≤ more + 1 → n < Nat.pow 2 (7 * more + 1) →
      varintFrom more (bs ++ rest) = some (n, rest) := by
  induction digits with
  | @last b unmarked =>
    intro more _ small
    cases more with
    | zero =>
      have bit : b.toNat < 2 := small
      simp [varintFrom, bit]
    | succ more => simp [varintFrom, unmarked]
  | @more b n bs marked higher ih =>
    intro more short small
    rw [List.length_cons] at short
    cases more with
    | zero =>
      have := higher.length_pos
      omega
    | succ more =>
      rw [pow_more] at small
      have rest := ih more (by omega) (by omega)
      simp [varintFrom, Nat.not_lt.2 marked, rest]

theorem varint?_spells {n : Nat} {bs : Bytes} (spells : Spells n bs) (rest : Bytes) :
    varint? (bs ++ rest) = some (n, rest) :=
  varintFrom_digits spells.digits rest 9 spells.short spells.word

theorem digits_varintBytes (more : Nat) :
    ∀ n, n < Nat.pow 2 (7 * more + 1) → Digits n (varintBytes more n) := by
  have value : ∀ {d : Nat}, d < 256 → (UInt8.ofNat d).toNat = d := by
    intro d small
    rw [UInt8.toNat_ofNat']
    omega
  have single : ∀ {n : Nat}, n < 128 → Digits n [UInt8.ofNat n] := by
    intro n small
    have digit := value (show n < 256 by omega)
    have last := Digits.last (b := UInt8.ofNat n) (by omega)
    rwa [digit] at last
  induction more with
  | zero =>
    intro n small
    have bit : n < 2 := small
    exact single (by omega)
  | succ more ih =>
    intro n small
    unfold varintBytes
    by_cases last : n < 128
    · rw [if_pos last]
      exact single last
    · rw [if_neg last]
      rw [pow_more] at small
      have digit := value (show n % 128 + 128 < 256 by omega)
      have higher := ih (n / 128) (by omega)
      have digits := Digits.more (b := UInt8.ofNat (n % 128 + 128)) (by omega) higher
      rwa [digit, show n % 128 + 128 - 128 + 128 * (n / 128) = n by omega] at digits

theorem length_varintBytes_le (more : Nat) : ∀ n, (varintBytes more n).length ≤ more + 1 := by
  induction more with
  | zero =>
    intro n
    simp [varintBytes]
  | succ more ih =>
    intro n
    unfold varintBytes
    split
    · simp
    · simpa using ih (n / 128)

/-- A word is written in one of its spellings, the shortest. -/
theorem spells_varint {n : Nat} (word : n < Nat.pow 2 64) : Spells n (varint n) :=
  ⟨digits_varintBytes 9 n word, length_varintBytes_le 9 n, word⟩

/-! ## Keys and payloads -/

/-- A number that a field may have: the kind of its payload finds room beside it in 32 bits. -/
abbrev IsFieldNumber (number : Nat) : Prop := 0 < number ∧ number < Nat.pow 2 29

theorem key_lt {number kind : Nat} (numbered : IsFieldNumber number) (three : kind < 8) :
    8 * number + kind < Nat.pow 2 32 := by
  have bound : Nat.pow 2 29 = 536870912 := rfl
  have size : Nat.pow 2 32 = 4294967296 := rfl
  omega

theorem key?_spells {number kind : Nat} (numbered : IsFieldNumber number) (three : kind < 8)
    {key : Bytes} (spells : Spells (8 * number + kind) key) (rest : Bytes) :
    key? (key ++ rest) = some (number, kind, rest) := by
  have possible : 8 ≤ 8 * number + kind ∧ 8 * number + kind < Nat.pow 2 32 :=
    ⟨by omega, key_lt numbered three⟩
  have above : (8 * number + kind) / 8 = number := by omega
  have below : (8 * number + kind) % 8 = kind := by omega
  simp only [key?, varint?_spells spells, if_pos possible, above, below]

theorem taken?_append {n : Nat} {data : Bytes} (length : data.length = n) (rest : Bytes) :
    taken? n (data ++ rest) = some (data, rest) := by
  subst length
  simp [taken?]

theorem Payload.kind_lt (p : Payload) : p.kind < 8 := by
  cases p <;> simp only [kind] <;> omega

/-- A spelling of a payload; groups have none. -/
def Payload.SpelledBy : Payload → Bytes → Prop
  | .varint n, bs => Spells n bs
  | .eight data, bs => data.length = 8 ∧ bs = data
  | .bytes data, bs => ∃ length, Spells data.length length ∧ bs = length ++ data
  | .group, _ => False
  | .four data, bs => data.length = 4 ∧ bs = data

theorem Payload.SpelledBy.kind_ne {p : Payload} {bs : Bytes} (spelled : p.SpelledBy bs) :
    p.kind ≠ 3 := by
  cases p with
  | group => exact spelled.elim
  | _ => simp [kind]

theorem payload?_spelled {p : Payload} {bs : Bytes} (spelled : p.SpelledBy bs) (rest : Bytes) :
    payload? p.kind (bs ++ rest) = some (p, rest) := by
  cases p with
  | varint n =>
    have spells : Spells n bs := spelled
    simp [Payload.kind, payload?, varint?_spells spells]
  | eight data =>
    obtain ⟨length, rfl⟩ := spelled
    simp [Payload.kind, payload?, taken?_append length]
  | bytes data =>
    obtain ⟨head, spells, rfl⟩ := spelled
    simp [Payload.kind, payload?, varint?_spells spells, taken?_append]
  | group => exact spelled.elim
  | four data =>
    obtain ⟨length, rfl⟩ := spelled
    simp [Payload.kind, payload?, taken?_append length]

/-- A payload that can be written: a word, data whose length is a word, or data of a fixed size. -/
def Payload.Fits : Payload → Prop
  | .varint n => n < Nat.pow 2 64
  | .eight data => data.length = 8
  | .bytes data => data.length < Nat.pow 2 64
  | .group => False
  | .four data => data.length = 4

theorem Payload.Fits.spelled {p : Payload} (fits : p.Fits) : p.SpelledBy p.encode := by
  cases p with
  | varint n => exact spells_varint fits
  | eight data => exact ⟨fits, rfl⟩
  | bytes data => exact ⟨_, spells_varint fits, rfl⟩
  | group => exact fits.elim
  | four data => exact ⟨fits, rfl⟩

/-! ## Fields -/

/-- A spelling of a field: its key, then its payload. -/
inductive Field.SpelledBy (f : Field) : Bytes → Prop
  | mk {key payload : Bytes} (numbered : IsFieldNumber f.number)
      (keyed : Spells (8 * f.number + f.payload.kind) key) (carried : f.payload.SpelledBy payload) :
      f.SpelledBy (key ++ payload)

theorem Field.SpelledBy.length_pos {f : Field} {bs : Bytes} (spelled : f.SpelledBy bs) :
    0 < bs.length := by
  obtain ⟨-, keyed, -⟩ := spelled
  rw [List.length_append]
  have := keyed.digits.length_pos
  omega

/-- The reader is where a field begins: it takes this one and goes on behind it. -/
theorem fieldsFrom_cons {f : Field} {bs : Bytes} (spelled : f.SpelledBy bs) (fuel room : Nat)
    (rest : Bytes) :
    fieldsFrom (fuel + 1) room (bs ++ rest) = (fieldsFrom fuel room rest).map (f :: ·) := by
  have something := spelled.length_pos
  obtain @⟨key, payload, numbered, keyed, carried⟩ := spelled
  have hkey := key?_spells numbered f.payload.kind_lt keyed (payload ++ rest)
  rw [← List.append_assoc] at hkey
  cases written : key ++ payload ++ rest with
  | nil => simp_all
  | cons b bs =>
    rw [written] at hkey
    simp only [fieldsFrom, hkey, if_neg carried.kind_ne, payload?_spelled carried,
      Option.bind_some]

/-- Spellings of fields one after the other. -/
inductive Spelling : List Field → Bytes → Prop
  | nil : Spelling [] []
  | cons {f : Field} {fs : List Field} {bs rest : Bytes} (first : f.SpelledBy bs)
      (later : Spelling fs rest) : Spelling (f :: fs) (bs ++ rest)

theorem fieldsFrom_spelling {fs : List Field} {bs : Bytes} (spelling : Spelling fs bs)
    (room : Nat) : ∀ fuel, bs.length ≤ fuel → fieldsFrom fuel room bs = some fs := by
  induction spelling with
  | nil =>
    intro fuel _
    cases fuel <;> rfl
  | cons first later ih =>
    intro fuel enough
    have something := first.length_pos
    rw [List.length_append] at enough
    cases fuel with
    | zero => omega
    | succ fuel => rw [fieldsFrom_cons first, ih fuel (by omega), Option.map_some]

theorem fields?_spelling {fs : List Field} {bs : Bytes} (spelling : Spelling fs bs) (room : Nat) :
    fields? room bs = some fs :=
  fieldsFrom_spelling spelling room _ (Nat.le_refl _)

/-- A field that can be written: it has a number, and a payload that fits. -/
structure Field.Fits (f : Field) : Prop where
  numbered : IsFieldNumber f.number
  payload : f.payload.Fits

theorem Field.Fits.spelled {f : Field} (fits : f.Fits) : f.SpelledBy f.encode := by
  have carried := fits.payload.spelled
  have single : f.payload ≠ .group := by
    intro group
    exact carried.kind_ne (by simp [group, Payload.kind])
  rw [Field.encode, if_neg single, List.append_nil]
  have key := key_lt fits.numbered f.payload.kind_lt
  exact ⟨fits.numbered, spells_varint (Nat.lt_trans key (by decide)), carried⟩

/-- Fields that can be written are spelled as they are written. -/
theorem spelling_flatMap {fs : List Field} (fits : ∀ f ∈ fs, f.Fits) :
    Spelling fs (fs.flatMap Field.encode) := by
  induction fs with
  | nil => exact .nil
  | cons f fs ih =>
    obtain ⟨first, later⟩ := List.forall_mem_cons.1 fits
    exact .cons first.spelled (ih later)

end DeviceLink.Wire
