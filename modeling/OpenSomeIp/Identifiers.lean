import Mathlib.Data.Int.Bitwise
import OpenSomeIp.Bridge
import OpenSomeIp.Lib.Numerals

set_option autoImplicit false

namespace OpenSomeIp

/-! ### Texts of numbers -/

section Hexadecimal

variable {width : Nat} {n : Int}

/-- The zeros in front of the digits. -/
def hexPadding (width : Nat) (n : Int) : Nat :=
  width - (if n < 0 then "-" else "").length - (Nat.toDigits 16 n.natAbs).length

theorem hexOfInt_of_nonneg (nonneg : 0 ≤ n) : (hexOfInt width n).toList =
    '0' :: 'x' :: (List.replicate (hexPadding width n) '0' ++ Nat.toDigits 16 n.natAbs) := by
  have sign : (if n < 0 then "-" else "") = "" := if_neg (Int.not_lt.mpr nonneg)
  simp only [hexOfInt, hexPadding, sign, String.toList_append, String.toList_ofList]
  rfl

theorem hexOfInt_of_neg (neg : n < 0) : (hexOfInt width n).toList =
    '-' :: '0' :: 'x' ::
      (List.replicate (hexPadding width n) '0' ++ Nat.toDigits 16 n.natAbs) := by
  have sign : (if n < 0 then "-" else "") = "-" := if_pos neg
  simp only [hexOfInt, hexPadding, sign, String.toList_append, String.toList_ofList]
  rfl

/-- The text of a number says which number it is. -/
theorem hexOfInt_injective (width : Nat) : Function.Injective (hexOfInt width) := by
  intro m n same
  have texts := congrArg String.toList same
  by_cases negM : m < 0
  · by_cases negN : n < 0
    · rw [hexOfInt_of_neg negM, hexOfInt_of_neg negN] at texts
      have digits := (List.cons.inj (List.cons.inj (List.cons.inj texts).2).2).2
      have magnitude := Numerals.toDigits_padded_injective (by decide) (by decide) digits
      omega
    · rw [hexOfInt_of_neg negM, hexOfInt_of_nonneg (Int.not_lt.mp negN)] at texts
      exact absurd (List.cons.inj texts).1 (by decide)
  · have nonnegM := Int.not_lt.mp negM
    by_cases negN : n < 0
    · rw [hexOfInt_of_nonneg nonnegM, hexOfInt_of_neg negN] at texts
      exact absurd (List.cons.inj texts).1 (by decide)
    · rw [hexOfInt_of_nonneg nonnegM, hexOfInt_of_nonneg (Int.not_lt.mp negN)] at texts
      have digits := (List.cons.inj (List.cons.inj texts).2).2
      have magnitude := Numerals.toDigits_padded_injective (by decide) (by decide) digits
      omega

/-- The characters of such a text. -/
theorem mem_hexOfInt {c : Char} (member : c ∈ (hexOfInt width n).toList) :
    c = '-' ∨ c = 'x' ∨ ∃ digit, digit < 16 ∧ c = digit.digitChar := by
  have digits (inside : c ∈ '0' :: 'x' ::
      (List.replicate (hexPadding width n) '0' ++ Nat.toDigits 16 n.natAbs)) :
      c = 'x' ∨ ∃ digit, digit < 16 ∧ c = digit.digitChar := by
    rcases List.mem_cons.mp inside with rfl | inside
    · exact .inr ⟨0, by decide, rfl⟩
    · rcases List.mem_cons.mp inside with rfl | inside
      · exact .inl rfl
      · rcases List.mem_append.mp inside with padding | digit
        · obtain rfl := List.eq_of_mem_replicate padding
          exact .inr ⟨0, by decide, rfl⟩
        · exact .inr (Numerals.digit_of_mem (by decide) digit)
  by_cases neg : n < 0
  · rw [hexOfInt_of_neg neg] at member
    rcases List.mem_cons.mp member with minus | inside
    · exact .inl minus
    · exact .inr (digits inside)
  · rw [hexOfInt_of_nonneg (Int.not_lt.mp neg)] at member
    exact .inr (digits member)

theorem comma_notMem_hexOfInt : ',' ∉ (hexOfInt width n).toList := by
  intro member
  rcases mem_hexOfInt member with minus | x | ⟨digit, small, same⟩
  · exact absurd minus (by decide)
  · exact absurd x (by decide)
  · have none_ : ∀ d ∈ List.range 16, ',' ≠ d.digitChar := by decide
    exact none_ digit (List.mem_range.mpr small) same

/-- The text of a 16-bit number is that of the integer, in six characters. -/
theorem hex06_eq (n : UInt16) : hex06 n = hexOfInt 4 n.toNat := by
  have sign : (if (n.toNat : Int) < 0 then "-" else "") = "" := if_neg (by omega)
  simp only [hex06, hexOfInt, sign, Int.natAbs_natCast]
  rfl

theorem hex06_injective : Function.Injective hex06 := by
  intro m n same
  rw [hex06_eq, hex06_eq] at same
  have equal := hexOfInt_injective 4 same
  exact UInt16.toNat_inj.mp (by omega)

theorem comma_notMem_hex06 (n : UInt16) : ',' ∉ (hex06 n).toList := by
  rw [hex06_eq]
  exact comma_notMem_hexOfInt

end Hexadecimal

section Decimal

theorem notMem_natText {c : Char} (noDigit : c.isDigit = false) (m : Nat) : c ∉ m.repr.toList := by
  intro member
  rw [Nat.toList_repr] at member
  have digit := Nat.isDigit_of_mem_toDigits (by decide) (by decide) member
  cases noDigit.symm.trans digit

/-- Only digits and a minus sign are in the text of an integer. -/
theorem notMem_decimal {c : Char} {n : Int} (noDigit : c.isDigit = false) (noSign : c ≠ '-') :
    c ∉ (toString n).toList := by
  cases n with
  | ofNat m => exact notMem_natText noDigit m
  | negSucc m =>
      intro member
      change c ∈ ("-" ++ (m + 1).repr).toList at member
      rw [String.toList_append] at member
      rcases List.mem_append.mp member with minus | digit
      · exact noSign (List.mem_singleton.mp minus)
      · exact notMem_natText noDigit (m + 1) digit

theorem natText_injective {m n : Nat} (same : m.repr = n.repr) : m = n := by
  have texts := congrArg String.toList same
  rw [Nat.toList_repr, Nat.toList_repr] at texts
  have values := congrArg (Numerals.value 10) texts
  rw [Numerals.value_toDigits (by decide) (by decide),
    Numerals.value_toDigits (by decide) (by decide)] at values
  exact values

theorem decimal_injective {m n : Int} (same : toString m = toString n) : m = n := by
  have minus (k l : Nat) (equal : k.repr = "-" ++ l.repr) : False := by
    apply notMem_natText (by decide : '-'.isDigit = false) k
    rw [equal, String.toList_append]
    exact List.mem_cons_self
  cases m with
  | ofNat k =>
      cases n with
      | ofNat l => exact congrArg Int.ofNat (natText_injective same)
      | negSucc l => exact (minus k (l + 1) same).elim
  | negSucc k =>
      cases n with
      | ofNat l => exact (minus l (k + 1) same.symm).elim
      | negSucc l =>
          have texts := congrArg String.toList same
          change ("-" ++ (k + 1).repr).toList = ("-" ++ (l + 1).repr).toList at texts
          rw [String.toList_append, String.toList_append] at texts
          have digits := String.toList_injective (List.append_cancel_left texts)
          exact congrArg Int.negSucc (Nat.succ.inj (natText_injective digits))

end Decimal

/-! ### Two halves of sixteen bits -/

/-- The expression `value & 0xFFFF` of any Python integer. -/
def low16 (value : Int) : Int := Int.land value 0xFFFF

theorem low16_eq (value : Int) : low16 value = value % 65536 := by
  cases value with
  | ofNat n =>
      have masked : n &&& 65535 = n % 65536 := Nat.and_two_pow_sub_one_eq_mod n 16
      change ((n &&& 65535 : Nat) : Int) = (n : Int) % 65536
      rw [masked]
      rfl
  | negSucc n =>
      have below : n % 65536 < 2 ^ 16 := Nat.mod_lt n (by decide)
      have masked : Nat.ldiff 65535 n = 65536 - (n % 65536 + 1) := by
        apply Nat.eq_of_testBit_eq
        intro i
        rw [Nat.testBit_ldiff, Nat.testBit_two_pow_sub_succ below, Nat.testBit_mod_two_pow n 16 i,
          Nat.testBit_two_pow_sub_one 16 i]
        cases decide (i < 16) <;> simp
      change ((Nat.ldiff 65535 n : Nat) : Int) = Int.negSucc n % 65536
      rw [masked, Int.negSucc_emod n (by decide)]
      omega

/-- What `MessageId` and `RequestId` have in common. -/
structure IdClass (ι : Type) where
  upperName : String
  lowerName : String
  make : UInt16 → UInt16 → ι
  upper : ι → UInt16
  lower : ι → UInt16
  fields : ∀ high low, upper (make high low) = high ∧ lower (make high low) = low
  whole : ∀ id, make (upper id) (lower id) = id

namespace IdClass

variable {ι : Type} (cls : IdClass ι)

/-- A half in range. -/
def Fits (given : Int) : Prop := 0 ≤ given ∧ given ≤ 0xFFFF

instance (given : Int) : Decidable (Fits given) :=
  inferInstanceAs (Decidable (0 ≤ given ∧ given ≤ 0xFFFF))

/-- The text of the `ValueError` of a half out of range. -/
def text (name : String) (given : Int) : String :=
  name ++ " must be 0..0xFFFF, got " ++ hexOfInt 0 given

/-- The constructor call on any two integers, with its `__post_init__`. -/
def ofInts (upper lower : Int) : Except Exn ι :=
  if ¬ Fits upper then .error (.valueError (text cls.upperName upper))
  else if ¬ Fits lower then .error (.valueError (text cls.lowerName lower))
  else .ok (cls.make (UInt16.ofNat upper.toNat) (UInt16.ofNat lower.toNat))

def value (id : ι) : Nat := ((cls.upper id).toNat <<< 16) ||| (cls.lower id).toNat

def fromValue (value : Int) : Except Exn ι := cls.ofInts (low16 (value >>> (16 : Nat))) (low16 value)

theorem value_eq (id : ι) : cls.value id = (cls.upper id).toNat * 65536 + (cls.lower id).toNat := by
  have low : (cls.lower id).toNat < 2 ^ 16 := (cls.lower id).toNat_lt
  rw [value, ← Nat.shiftLeft_add_eq_or_of_lt low, Nat.shiftLeft_eq]

variable {upper lower : Int}

theorem ofInts_of_fits (high : Fits upper) (low : Fits lower) : cls.ofInts upper lower =
    .ok (cls.make (UInt16.ofNat upper.toNat) (UInt16.ofNat lower.toNat)) := by
  rw [ofInts, if_neg (not_not.mpr high), if_neg (not_not.mpr low)]

theorem ofInts_of_lower (high : Fits upper) (low : ¬ Fits lower) :
    cls.ofInts upper lower = .error (.valueError (text cls.lowerName lower)) := by
  rw [ofInts, if_neg (not_not.mpr high), if_pos low]

theorem ofInts_of_upper (high : ¬ Fits upper) :
    cls.ofInts upper lower = .error (.valueError (text cls.upperName upper)) := by
  rw [ofInts, if_pos high]

theorem ofInts_eq_ok {id : ι} : cls.ofInts upper lower = .ok id ↔
    upper = (cls.upper id).toNat ∧ lower = (cls.lower id).toNat := by
  have highBound : (cls.upper id).toNat < 65536 := (cls.upper id).toNat_lt
  have lowBound : (cls.lower id).toNat < 65536 := (cls.lower id).toNat_lt
  by_cases high : Fits upper
  · by_cases low : Fits lower
    · rw [cls.ofInts_of_fits high low]
      unfold Fits at high low
      constructor
      · intro same
        obtain rfl := Except.ok.inj same
        have halves := cls.fields (UInt16.ofNat upper.toNat) (UInt16.ofNat lower.toNat)
        rw [halves.1, halves.2, UInt16.toNat_ofNat', UInt16.toNat_ofNat']
        omega
      · rintro ⟨rfl, rfl⟩
        rw [Int.toNat_natCast, Int.toNat_natCast, UInt16.ofNat_toNat, UInt16.ofNat_toNat, cls.whole]
    · rw [cls.ofInts_of_lower high low]
      unfold Fits at low
      apply iff_of_false
      · intro same
        cases same
      · omega
  · rw [cls.ofInts_of_upper high]
    unfold Fits at high
    apply iff_of_false
    · intro same
      cases same
    · omega

/-- An error names the first half that is out of range, and the number it was given. -/
theorem ofInts_eq_error {exc : Exn} : cls.ofInts upper lower = .error exc ↔
    (¬ Fits upper ∧ exc = .valueError (text cls.upperName upper)) ∨
      (Fits upper ∧ ¬ Fits lower ∧ exc = .valueError (text cls.lowerName lower)) := by
  by_cases high : Fits upper
  · by_cases low : Fits lower
    · rw [cls.ofInts_of_fits high low]
      apply iff_of_false
      · intro same
        cases same
      · rintro (⟨bad, -⟩ | ⟨-, bad, -⟩)
        · exact bad high
        · exact bad low
    · rw [cls.ofInts_of_lower high low, Except.error.injEq, eq_comm]
      simp only [high, low, not_true_eq_false, not_false_eq_true, false_and, true_and, false_or]
  · rw [cls.ofInts_of_upper high, Except.error.injEq, eq_comm]
    simp only [high, not_false_eq_true, true_and, false_and, or_false]

/-- Every integer names an id, that of its last 32 bits. -/
theorem fromValue_eq (given : Int) :
    ∃ id, cls.fromValue given = .ok id ∧ (cls.value id : Int) = given % 2 ^ 32 := by
  have high : (given >>> (16 : Nat)) % 65536 = given / 65536 % 65536 := by
    rw [Int.shiftRight_eq_div_pow]
    rfl
  have ok : ∃ id, cls.fromValue given = .ok id := by
    cases made : cls.fromValue given with
    | ok id => exact ⟨id, rfl⟩
    | error exc =>
        rw [fromValue, low16_eq, low16_eq, ofInts_eq_error, Fits, Fits] at made
        omega
  obtain ⟨id, made⟩ := ok
  refine ⟨id, made, ?_⟩
  rw [fromValue, low16_eq, low16_eq, ofInts_eq_ok, high] at made
  rw [value_eq]
  omega

theorem fromValue_value (id : ι) : cls.fromValue (cls.value id) = .ok id := by
  have high : (cls.upper id).toNat < 65536 := (cls.upper id).toNat_lt
  have low : (cls.lower id).toNat < 65536 := (cls.lower id).toNat_lt
  have shifted : ((cls.value id : Int) >>> (16 : Nat)) = (cls.value id : Int) / 65536 := by
    rw [Int.shiftRight_eq_div_pow]
    rfl
  rw [fromValue, low16_eq, low16_eq, ofInts_eq_ok, shifted, value_eq]
  omega

/-- The texts of ids: a prefix and the two halves with their names. -/
theorem text_injective {front middle back : String} {rest : List Char} {id id' : ι}
    (comma : middle.toList = ',' :: rest)
    (same : front ++ hex06 (cls.upper id) ++ middle ++ hex06 (cls.lower id) ++ back =
      front ++ hex06 (cls.upper id') ++ middle ++ hex06 (cls.lower id') ++ back) : id = id' := by
  have texts := congrArg String.toList same
  simp only [String.toList_append, comma, List.append_assoc, List.cons_append] at texts
  obtain ⟨uppers, others⟩ := Numerals.field_injective (comma_notMem_hex06 _)
    (comma_notMem_hex06 _) (List.append_cancel_left texts)
  have lowers := List.append_cancel_right (List.append_cancel_left others)
  have upper := hex06_injective (String.toList_injective uppers)
  have lower := hex06_injective (String.toList_injective lowers)
  rw [← cls.whole id, ← cls.whole id', upper, lower]

/-- What the two classes do: they accept two halves in range and name the first that is not, pack
them into 32 bits, unpack any integer, and give each id a text of its own. -/
structure Faithful (ofInts : Int → Int → Except Exn ι) (value : ι → Nat)
    (fromValue : Int → Except Exn ι) (repr : ι → String) : Prop where
  accepts : ∀ upper lower id, ofInts upper lower = .ok id ↔
    upper = (cls.upper id).toNat ∧ lower = (cls.lower id).toNat
  refuses : ∀ upper lower exc, ofInts upper lower = .error exc ↔
    (¬ Fits upper ∧ exc = .valueError (text cls.upperName upper)) ∨
      (Fits upper ∧ ¬ Fits lower ∧ exc = .valueError (text cls.lowerName lower))
  blames : ∀ name given given', text name given = text name given' → given = given'
  unpacks : ∀ given : Int, ∃ id, fromValue given = .ok id ∧ (value id : Int) = given % 2 ^ 32
  packs : ∀ id, fromValue (value id) = .ok id
  texts : Function.Injective repr

theorem faithful {repr : ι → String} (texts : Function.Injective repr) :
    cls.Faithful cls.ofInts cls.value cls.fromValue repr where
  accepts _ _ _ := cls.ofInts_eq_ok
  refuses _ _ _ := cls.ofInts_eq_error
  blames name given given' same := by
    have texts := congrArg String.toList same
    simp only [text, String.toList_append] at texts
    exact hexOfInt_injective 0 (String.toList_injective (List.append_cancel_left texts))
  unpacks := cls.fromValue_eq
  packs := cls.fromValue_value
  texts := texts

end IdClass

namespace MessageId

def idClass : IdClass MessageId where
  upperName := "service_id"
  lowerName := "method_id"
  make := MessageId.mk
  upper := serviceId
  lower := methodId
  fields _ _ := ⟨rfl, rfl⟩
  whole _ := rfl

def fromValue (value : Int) : Except Exn MessageId :=
  ofInts (low16 (value >>> (16 : Nat))) (low16 value)

theorem repr_injective : Function.Injective MessageId.repr := by
  intro id id' same
  exact idClass.text_injective rfl same

end MessageId

namespace RequestId

def idClass : IdClass RequestId where
  upperName := "client_id"
  lowerName := "session_id"
  make := RequestId.mk
  upper := clientId
  lower := sessionId
  fields _ _ := ⟨rfl, rfl⟩
  whole _ := rfl

/-- The combined 32-bit request id. -/
def value (id : RequestId) : Nat := (id.clientId.toNat <<< 16) ||| id.sessionId.toNat

def fromValue (value : Int) : Except Exn RequestId :=
  ofInts (low16 (value >>> (16 : Nat))) (low16 value)

def repr (id : RequestId) : String :=
  "RequestId(client_id=" ++ hex06 id.clientId ++ ", session_id=" ++ hex06 id.sessionId ++ ")"

theorem repr_injective : Function.Injective RequestId.repr := by
  intro id id' same
  exact idClass.text_injective rfl same

end RequestId

/-- The ids of messages and requests for all Python integers: what is accepted and what is
refused with which text, that packing and unpacking are inverse, and that no two have one
`repr`. -/
theorem identifiers_faithful :
    MessageId.idClass.Faithful MessageId.ofInts MessageId.value MessageId.fromValue
        MessageId.repr ∧
      RequestId.idClass.Faithful RequestId.ofInts RequestId.value RequestId.fromValue
        RequestId.repr :=
  ⟨MessageId.idClass.faithful MessageId.repr_injective,
    RequestId.idClass.faithful RequestId.repr_injective⟩

end OpenSomeIp
