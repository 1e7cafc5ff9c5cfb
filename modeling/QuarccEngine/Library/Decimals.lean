import Mathlib.Data.List.DropRight
import Mathlib.Data.List.Induction
import Mathlib.Data.Nat.Digits.Defs
import Mathlib.Tactic.Ring

/-!
# Decimal texts

Numbers as texts of decimal digits, the most significant digit first.  `value` is the number that a
list of digits denotes and `text` its characters; Horner's rule on the characters computes the
number.  `fixed` is the list of the last digits of a number in a given width.

Among texts of one length the alphabetical order is the order of the numbers, and a text that is
made of two parts is compared by its first part and then by its second one.

`trailing` reads the number at the end of a text, whatever stands before it and however many zeros
it is padded with.
-/

namespace Decimal

/-- The number that a list of decimal digits denotes. -/
def value (digits : List ℕ) : ℕ := Nat.ofDigits 10 digits.reverse

/-- The characters of a list of digits. -/
def text (digits : List ℕ) : List Char := digits.map Nat.digitChar

@[simp] lemma value_nil : value [] = 0 := rfl

@[simp] lemma text_nil : text [] = [] := rfl

@[simp] lemma text_cons (d : ℕ) (ds : List ℕ) : text (d :: ds) = d.digitChar :: text ds := rfl

@[simp] lemma text_append (ds es : List ℕ) : text (ds ++ es) = text ds ++ text es :=
  List.map_append

@[simp] lemma length_text (ds : List ℕ) : (text ds).length = ds.length := List.length_map _

/-- One more digit at the end. -/
lemma value_concat (ds : List ℕ) (d : ℕ) : value (ds ++ [d]) = 10 * value ds + d := by
  unfold value
  rw [List.reverse_append, List.reverse_singleton, List.singleton_append, Nat.ofDigits_cons]
  omega

/-- One more digit at the front. -/
lemma value_cons (d : ℕ) (ds : List ℕ) : value (d :: ds) = d * 10 ^ ds.length + value ds := by
  unfold value
  rw [List.reverse_cons, Nat.ofDigits_append, Nat.ofDigits_singleton, List.length_reverse]
  ring

/-- A number of so many digits is below the power of ten. -/
lemma value_lt {ds : List ℕ} (h : ∀ d ∈ ds, d < 10) : value ds < 10 ^ ds.length := by
  have hrev : ∀ d ∈ ds.reverse, d < 10 := fun d hd => h d (List.mem_reverse.mp hd)
  have hlt := Nat.ofDigits_lt_base_pow_length (by norm_num) hrev
  rwa [List.length_reverse] at hlt

/-! ## Reading digits -/

/-- The digit characters are those of the numbers below ten. -/
lemma isDigit_iff {c : Char} : c.isDigit = true ↔ ∃ d < 10, c = Nat.digitChar d := by
  constructor
  · intro h
    have hrange : 48 ≤ c.toNat ∧ c.toNat ≤ 57 := by
      simpa [Char.isDigit, UInt32.le_iff_toNat_le] using h
    refine ⟨c.toNat - 48, by omega, ?_⟩
    apply Char.toNat_inj.mp
    rw [Nat.toNat_digitChar_of_lt_ten (by omega)]
    omega
  · rintro ⟨d, hd, rfl⟩
    simpa [Nat.isDigit_digitChar] using hd

/-- The characters of a list of digits are digit characters. -/
lemma all_isDigit_text {ds : List ℕ} (h : ∀ d ∈ ds, d < 10) :
    (text ds).all Char.isDigit = true := by
  rw [List.all_eq_true]
  intro c hc
  obtain ⟨d, hd, rfl⟩ := List.mem_map.mp hc
  exact isDigit_iff.mpr ⟨d, h d hd, rfl⟩

/-- Every list of digit characters is the text of a list of digits. -/
lemma exists_text {cs : List Char} (h : cs.all Char.isDigit = true) :
    ∃ ds : List ℕ, (∀ d ∈ ds, d < 10) ∧ cs = text ds := by
  induction cs with
  | nil => exact ⟨[], by simp, rfl⟩
  | cons c cs ih =>
    rw [List.all_cons, Bool.and_eq_true] at h
    obtain ⟨d, hd, rfl⟩ := isDigit_iff.mp h.1
    obtain ⟨ds, hds, rfl⟩ := ih h.2
    exact ⟨d :: ds, List.forall_mem_cons.mpr ⟨hd, hds⟩, rfl⟩

/-- **Horner's rule** on the characters computes the number. -/
lemma foldl_text {ds : List ℕ} (h : ∀ d ∈ ds, d < 10) :
    (text ds).foldl (fun n c => 10 * n + (c.toNat - '0'.toNat)) 0 = value ds := by
  induction ds using List.reverseRecOn with
  | nil => rfl
  | append_singleton ds d ih =>
    have hd : d < 10 := h d (by simp)
    have hds : ∀ e ∈ ds, e < 10 := fun e he => h e (by simp [he])
    have hchar : (Nat.digitChar d).toNat - '0'.toNat = d :=
      Nat.toNat_digitChar_sub_48_of_lt_ten hd
    rw [text_append, List.foldl_append, ih hds, value_concat, text_cons, text_nil,
      List.foldl_cons, List.foldl_nil, hchar]

/-! ## The number at the end of a text -/

/-- The number that the digits at the end of a text denote. -/
def trailing (cs : List Char) : ℕ := Nat.ofDigitChars 10 (cs.rtakeWhile Char.isDigit) 0

/-- The digits at the end start after the last character that is no digit. -/
lemma rtakeWhile_append_cons {c : Char} (hc : ¬ c.isDigit) (before : List Char) {cs : List Char}
    (hcs : ∀ d ∈ cs, d.isDigit) : (before ++ c :: cs).rtakeWhile Char.isDigit = cs := by
  induction cs using List.reverseRecOn with
  | nil => exact List.rtakeWhile_concat_neg _ before c hc
  | append_singleton cs d ih =>
    have hd : d.isDigit := hcs d (by simp)
    have hinit : ∀ e ∈ cs, e.isDigit := fun e he => hcs e (by simp [he])
    have hassoc : before ++ c :: (cs ++ [d]) = (before ++ c :: cs) ++ [d] := by simp
    rw [hassoc, List.rtakeWhile_concat_pos _ _ d hd, ih hinit]

/-- The zeros with which a number is padded are digits, too. -/
lemma isDigit_of_mem_padded {k n : ℕ} {c : Char}
    (h : c ∈ List.replicate k '0' ++ Nat.toDigits 10 n) : c.isDigit := by
  rcases List.mem_append.mp h with hzero | hdigit
  · rw [List.eq_of_mem_replicate hzero]
    rfl
  · exact Nat.isDigit_of_mem_toDigits (by norm_num) le_rfl hdigit

/-- **A number is read back** from the end of a text, whatever stands before it and however many
zeros it is padded with. -/
lemma trailing_padded {c : Char} (hc : ¬ c.isDigit) (before : List Char) (k n : ℕ) :
    trailing (before ++ c :: (List.replicate k '0' ++ Nat.toDigits 10 n)) = n := by
  unfold trailing
  rw [rtakeWhile_append_cons hc before fun _ => isDigit_of_mem_padded, Nat.ofDigitChars_append,
    Nat.ofDigitChars_replicate_zero, Nat.mul_zero, Nat.ofDigitChars_ten_toDigits]

/-! ## Fixed width -/

/-- The last digits of a number, so many as the width says. -/
def fixed : ℕ → ℕ → List ℕ
  | 0, _ => []
  | width + 1, n => fixed width (n / 10) ++ [n % 10]

@[simp] lemma length_fixed (width n : ℕ) : (fixed width n).length = width := by
  induction width generalizing n with
  | zero => rfl
  | succ width ih => rw [fixed, List.length_append, ih, List.length_singleton]

lemma lt_ten_of_mem_fixed {width n d : ℕ} (h : d ∈ fixed width n) : d < 10 := by
  induction width generalizing n with
  | zero => exact absurd h List.not_mem_nil
  | succ width ih =>
    rcases List.mem_append.mp h with hrest | hlast
    · exact ih hrest
    · rw [List.mem_singleton.mp hlast]
      exact Nat.mod_lt n (by norm_num)

/-- The digits denote the number, when the width is enough for it. -/
lemma value_fixed {width n : ℕ} (h : n < 10 ^ width) : value (fixed width n) = n := by
  induction width generalizing n with
  | zero =>
    have hzero : n = 0 := by omega
    rw [hzero]
    rfl
  | succ width ih =>
    have hrest : n / 10 < 10 ^ width := by
      rw [pow_succ] at h
      omega
    rw [fixed, value_concat, ih hrest]
    omega

lemma fixed_zero (width : ℕ) : text (fixed width 0) = List.replicate width '0' := by
  induction width with
  | zero => rfl
  | succ width ih =>
    rw [fixed, text_append, Nat.zero_div, ih, List.replicate_succ']
    rfl

/-- The digits in a fixed width are the decimal digits of the number with zeros before them. -/
lemma text_fixed {width n : ℕ} (hwidth : 0 < width) (h : n < 10 ^ width) :
    text (fixed width n) =
      List.replicate (width - (Nat.toDigits 10 n).length) '0' ++ Nat.toDigits 10 n := by
  induction width generalizing n with
  | zero => exact absurd hwidth (lt_irrefl 0)
  | succ width ih =>
    rw [fixed, text_append, Nat.toDigits_eq_if (by norm_num)]
    by_cases hsmall : n < 10
    · have hrest : n / 10 = 0 := by omega
      have hlast : n % 10 = n := by omega
      rw [if_pos hsmall, hrest, hlast, fixed_zero]
      rfl
    · have hpos : 0 < width := by
        by_contra hzero
        obtain rfl : width = 0 := by omega
        omega
      have hrest : n / 10 < 10 ^ width := by
        rw [pow_succ] at h
        omega
      rw [if_neg hsmall, ih hpos hrest, List.append_assoc, List.length_append,
        List.length_singleton, Nat.add_sub_add_right]
      rfl

/-! ## Order -/

/-- Numbers in two parts are compared part by part. -/
lemma mul_add_lt_iff {a b x y base : ℕ} (hx : x < base) (hy : y < base) :
    a * base + x < b * base + y ↔ a < b ∨ (a = b ∧ x < y) := by
  have hstep : ∀ {c d : ℕ}, c < d → c * base + base ≤ d * base := by
    intro c d h
    have hle : (c + 1) * base ≤ d * base := Nat.mul_le_mul_right _ h
    rwa [Nat.add_mul, Nat.one_mul] at hle
  rcases Nat.lt_trichotomy a b with hlt | rfl | hgt
  · have hle := hstep hlt
    exact iff_of_true (by omega) (Or.inl hlt)
  · simp
  · have hle := hstep hgt
    apply iff_of_false (by omega)
    omega

/-- The digit characters are in the order of the digits. -/
lemma digitChar_lt_iff {d e : ℕ} (hd : d < 10) (he : e < 10) :
    d.digitChar < e.digitChar ↔ d < e := by
  have hiff : d.digitChar < e.digitChar ↔ d.digitChar.toNat < e.digitChar.toNat :=
    UInt32.lt_iff_toNat_lt
  rw [hiff, Nat.toNat_digitChar_of_lt_ten hd, Nat.toNat_digitChar_of_lt_ten he]
  omega

/-- Texts of one length are in the order of the numbers. -/
lemma text_lt_iff {ds es : List ℕ} (hlength : ds.length = es.length) (hds : ∀ d ∈ ds, d < 10)
    (hes : ∀ e ∈ es, e < 10) : text ds < text es ↔ value ds < value es := by
  induction ds generalizing es with
  | nil =>
    obtain rfl := List.length_eq_zero_iff.mp hlength.symm
    simp
  | cons d ds ih =>
    cases es with
    | nil => cases hlength
    | cons e es =>
      obtain ⟨hd, hds⟩ := List.forall_mem_cons.mp hds
      obtain ⟨he, hes⟩ := List.forall_mem_cons.mp hes
      have hlength : ds.length = es.length := Nat.succ.inj hlength
      have hvalue := value_lt hds
      have hvalue' := value_lt hes
      have hsame : d.digitChar = e.digitChar ↔ d = e := by
        constructor
        · intro hchar
          have hnat := congrArg Char.toNat hchar
          rw [Nat.toNat_digitChar_of_lt_ten hd, Nat.toNat_digitChar_of_lt_ten he] at hnat
          omega
        · exact congrArg Nat.digitChar
      rw [hlength] at hvalue
      rw [text_cons, text_cons, List.cons_lt_cons_iff, digitChar_lt_iff hd he, hsame,
        ih hlength hds hes, value_cons, value_cons, hlength, mul_add_lt_iff hvalue hvalue']

/-- A text that starts with a digit comes before one that starts with a character after the
digits. -/
lemma text_append_lt {ds : List ℕ} (hne : ds ≠ []) (hds : ∀ d ∈ ds, d < 10) {c : Char}
    (hc : '9' < c) (rest cs : List Char) : text ds ++ rest < c :: cs := by
  cases ds with
  | nil => exact absurd rfl hne
  | cons d ds =>
    have hd : d < 10 := hds d List.mem_cons_self
    have hle : d.digitChar.toNat ≤ '9'.toNat := by
      rw [Nat.toNat_digitChar_of_lt_ten hd]
      change 48 + d ≤ 57
      omega
    have hlt : '9'.toNat < c.toNat := UInt32.lt_iff_toNat_lt.mp hc
    rw [text_cons, List.cons_append, List.cons_lt_cons_iff]
    exact Or.inl (UInt32.lt_iff_toNat_lt.mpr (lt_of_le_of_lt hle hlt))

/-- Texts in two parts, of which the first ones have one length, are compared part by part. -/
lemma append_lt_append_iff {α : Type*} [LT α] {a a' b b' : List α}
    (h : a.length = a'.length) : a ++ b < a' ++ b' ↔ a < a' ∨ (a = a' ∧ b < b') := by
  induction a generalizing a' with
  | nil =>
    obtain rfl := List.length_eq_zero_iff.mp h.symm
    simp
  | cons x a ih =>
    cases a' with
    | nil => cases h
    | cons x' a' =>
      rw [List.cons_append, List.cons_append, List.cons_lt_cons_iff, List.cons_lt_cons_iff,
        ih (Nat.succ.inj h), List.cons.injEq]
      tauto

/-- Texts with the same first part are compared by their second one. -/
lemma append_lt_append_left_iff (a : List Char) {b b' : List Char} : a ++ b < a ++ b' ↔ b < b' := by
  rw [append_lt_append_iff rfl]
  constructor
  · rintro (hself | ⟨-, h⟩)
    · exact absurd hself (List.lt_irrefl a)
    · exact h
  · exact fun h => Or.inr ⟨rfl, h⟩

/-! ## Records -/

/-- The fields of a record in a text: the width of each and the characters after it. -/
abbrev Layout := List (ℕ × List Char)

/-- The text of a record. -/
def Layout.text : Layout → List ℕ → List Char
  | (width, after) :: fields, n :: ns =>
    Decimal.text (fixed width n) ++ (after ++ Layout.text fields ns)
  | _, _ => []

/-- The digits of a record, one field after the other. -/
def Layout.width (layout : Layout) : ℕ := (layout.map Prod.fst).sum

/-- The number that the digits of a record make together. -/
def Layout.code : Layout → List ℕ → ℕ
  | (_, _) :: fields, n :: ns => n * 10 ^ Layout.width fields + Layout.code fields ns
  | _, _ => 0

/-- Every value has its field, and fits into it. -/
def Layout.Fits (layout : Layout) (ns : List ℕ) : Prop :=
  List.Forall₂ (fun field n => n < 10 ^ field.1) layout ns

/-- A character of a record is a digit or stands after a field. -/
lemma Layout.mem_text {layout : Layout} {ns : List ℕ} {c : Char} (h : c ∈ layout.text ns) :
    c.isDigit = true ∨ ∃ field ∈ layout, c ∈ field.2 := by
  fun_induction Layout.text layout ns with
  | case1 width after fields n ns ih =>
    rcases List.mem_append.mp h with hdigit | hrest
    · left
      exact List.all_eq_true.mp (all_isDigit_text fun _ => lt_ten_of_mem_fixed) c hdigit
    · rcases List.mem_append.mp hrest with hafter | hfields
      · exact Or.inr ⟨_, List.mem_cons_self, hafter⟩
      · rcases ih hfields with hdigit | ⟨field, hfield, hmem⟩
        · exact Or.inl hdigit
        · exact Or.inr ⟨field, List.mem_cons_of_mem _ hfield, hmem⟩
  | case2 => exact absurd h List.not_mem_nil

/-- The number of a record that fits has at most its digits. -/
lemma Layout.Fits.code_lt {layout : Layout} {ns : List ℕ} (h : layout.Fits ns) :
    layout.code ns < 10 ^ layout.width := by
  induction h with
  | nil => exact Nat.one_pos
  | @cons field n fields ns hn hrest ih =>
    have hstep : (n + 1) * 10 ^ Layout.width fields ≤ 10 ^ field.1 * 10 ^ Layout.width fields :=
      Nat.mul_le_mul_right _ hn
    have hwidth : Layout.width (field :: fields) = field.1 + Layout.width fields := List.sum_cons
    rw [Nat.add_mul, Nat.one_mul] at hstep
    rw [hwidth, pow_add]
    change n * 10 ^ Layout.width fields + Layout.code fields ns < _
    omega

/-- **Records are in the order of their numbers.** -/
lemma Layout.text_lt_iff {layout : Layout} {ns ms : List ℕ} (h : layout.Fits ns)
    (h' : layout.Fits ms) : layout.text ns < layout.text ms ↔ layout.code ns < layout.code ms := by
  induction h generalizing ms with
  | nil =>
    cases h'
    simp [Layout.text, Layout.code]
  | @cons field n fields ns hn hrest ih =>
    cases h' with
    | @cons _ m _ ms hm hrest' =>
      have hcode := Layout.Fits.code_lt hrest
      have hcode' := Layout.Fits.code_lt hrest'
      have hfirst : Decimal.text (fixed field.1 n) < Decimal.text (fixed field.1 m) ↔ n < m := by
        rw [Decimal.text_lt_iff (by rw [length_fixed, length_fixed])
          (fun _ => lt_ten_of_mem_fixed) fun _ => lt_ten_of_mem_fixed, value_fixed hn,
            value_fixed hm]
      have hsame : Decimal.text (fixed field.1 n) = Decimal.text (fixed field.1 m) ↔ n = m := by
        constructor
        · intro heq
          have hvalue := congrArg (List.foldl (fun n c => 10 * n + (c.toNat - '0'.toNat)) 0) heq
          rwa [foldl_text fun _ => lt_ten_of_mem_fixed, foldl_text fun _ => lt_ten_of_mem_fixed,
            value_fixed hn, value_fixed hm] at hvalue
        · rintro rfl
          rfl
      change Decimal.text (fixed field.1 n) ++ (field.2 ++ Layout.text fields ns) <
        Decimal.text (fixed field.1 m) ++ (field.2 ++ Layout.text fields ms) ↔
          n * 10 ^ Layout.width fields + Layout.code fields ns <
            m * 10 ^ Layout.width fields + Layout.code fields ms
      have hlength : (Decimal.text (fixed field.1 n)).length =
          (Decimal.text (fixed field.1 m)).length := by
        rw [length_text, length_text, length_fixed, length_fixed]
      rw [append_lt_append_iff hlength, hfirst, hsame, append_lt_append_left_iff, ih hrest',
        mul_add_lt_iff hcode hcode']

end Decimal
