import Mathlib.Algebra.Ring.Int.Defs
import Mathlib.Algebra.Ring.Nat
import Mathlib.Data.List.Basic
import Mathlib.Data.List.DropRight
import Mathlib.Data.List.TakeDrop
import Mathlib.Tactic.Common

namespace Text

/-!
# Separated text

Text is a list of characters.  What the standard library of Rust reads from it, and what comes
back from pieces that were joined by a separator.

* `lines`, `splitn`, `trim`, `parseUnsigned`, `parseSigned` — `str::lines`, `str::splitn`,
  `str::trim` and `str::parse` for integers; `decimal` is the text of an integer.
* `lines_append`, `lines_flatMap`, `filterMap_splitOn`, `any_splitOn`, `splitOn_map` — joined
  pieces, split again.
* `parseSigned_decimal`, `parseUnsigned_decimal` — numbers read back.
* `utf8` — the bytes of a text.
-/

/-! ### Lines and pieces -/

/-- A line without the carriage return that may end it. -/
def stripCr (line : List Char) : List Char :=
  if line.getLast? = some '\r' then line.dropLast else line

/-- The lines among the parts of a text between line feeds: what stands before a line feed, without
    a carriage return there, and what follows the last line feed if that is not empty. -/
def linesOf (parts : List (List Char)) : List (List Char) :=
  parts.dropLast.map stripCr ++ parts.getLast?.toList.filter (fun line => !line.isEmpty)

/-- `str::lines`. -/
def lines (text : List Char) : List (List Char) := linesOf (text.splitOn '\n')

/-- `str::splitn`: at most `n` pieces, the last of them with all the text that is left. -/
def splitn : Nat → Char → List Char → List (List Char)
  | 0, _, _ => []
  | 1, _, text => [text]
  | n + 2, x, text =>
    match text.span (· != x) with
    | (piece, []) => [piece]
    | (piece, _ :: rest) => piece :: splitn (n + 1) x rest

/-- Text of whole lines: the next character starts one. -/
def Terminated (text : List Char) : Prop := text = [] ∨ text.getLast? = some '\n'

/-- `char::is_whitespace`: the `White_Space` property of Unicode. -/
def isWhitespace (c : Char) : Bool :=
  let n := c.toNat
  (9 ≤ n && n ≤ 13) || n == 0x20 || n == 0x85 || n == 0xa0 || n == 0x1680 ||
    (0x2000 ≤ n && n ≤ 0x200a) || n == 0x2028 || n == 0x2029 || n == 0x202f || n == 0x205f ||
    n == 0x3000

/-- `str::trim`. -/
def trim (text : List Char) : List Char :=
  ((text.dropWhile isWhitespace).reverse.dropWhile isWhitespace).reverse

/-- A text without blanks is not trimmed. -/
theorem trim_of_forall {text : List Char} (h : ∀ c ∈ text, isWhitespace c = false) :
    trim text = text := by
  have drop : ∀ l : List Char, (∀ c ∈ l, isWhitespace c = false) →
      l.dropWhile isWhitespace = l := by
    intro l hl
    cases l with
    | nil => rfl
    | cons c cs => rw [List.dropWhile_cons, hl c List.mem_cons_self, if_neg (by decide)]
  rw [trim, drop text h, drop text.reverse (fun c hc => h c (List.mem_reverse.mp hc)),
    List.reverse_reverse]

/-- A line that does not end in a carriage return stays. -/
theorem stripCr_of_getLast? {line : List Char} (h : line.getLast? ≠ some '\r') :
    stripCr line = line := if_neg h

/-- What stands before another character is not stripped. -/
theorem stripCr_append_cons (a : List Char) {c : Char} (b : List Char) (h : c ≠ '\r') :
    stripCr (a ++ c :: b) = a ++ c :: stripCr b := by
  have last : (a ++ c :: b).getLast? = some ((c :: b).getLast (List.cons_ne_nil c b)) := by
    rw [List.getLast?_append_of_ne_nil a (List.cons_ne_nil c b), List.getLast?_eq_getLast_of_ne_nil]
  cases b with
  | nil =>
    rw [List.getLast_singleton] at last
    rw [stripCr, last, if_neg (by simpa using h)]
    rfl
  | cons d b =>
    rw [List.getLast_cons (List.cons_ne_nil d b)] at last
    unfold stripCr
    rw [last, List.getLast?_eq_getLast_of_ne_nil (List.cons_ne_nil d b),
      List.dropLast_append_of_ne_nil (List.cons_ne_nil c _), List.dropLast_cons_of_ne_nil
        (List.cons_ne_nil d b)]
    split_ifs <;> rfl

/-- A first line. -/
theorem lines_append_cons {line : List Char} (text : List Char) (feed : '\n' ∉ line) :
    lines (line ++ '\n' :: text) = stripCr line :: lines text := by
  have ne : text.splitOn '\n' ≠ [] := List.splitOn_ne_nil _ _
  rw [lines, List.splitOn_append_cons_self_of_not_mem feed, linesOf,
    List.dropLast_cons_of_ne_nil ne, List.getLast?_cons_of_ne_nil ne]
  rfl

/-- Whole lines are read without what follows. -/
theorem lines_append {a : List Char} (b : List Char) (whole : Terminated a) :
    lines (a ++ b) = lines a ++ lines b := by
  rcases whole with rfl | last
  · rfl
  · obtain ⟨init, rfl⟩ : ∃ init, a = init ++ ['\n'] := by
      refine ⟨a.dropLast, (List.dropLast_append_getLast? '\n' last).symm⟩
    have ne : b.splitOn '\n' ≠ [] := List.splitOn_ne_nil _ _
    unfold lines linesOf
    rw [List.append_assoc, List.singleton_append, List.splitOn_append_cons_self,
      List.splitOn_append_cons_self, List.splitOn_nil, List.dropLast_append_of_ne_nil ne,
      List.getLast?_append_of_ne_nil _ ne, List.dropLast_concat, List.getLast?_concat,
      List.map_append, List.append_assoc]
    simp

/-- Lines that are written one after the other are read back, but for carriage returns. -/
theorem lines_flatMap_stripCr (ls : List (List Char)) (feed : ∀ l ∈ ls, '\n' ∉ l) :
    lines (ls.flatMap (· ++ ['\n'])) = ls.map stripCr := by
  induction ls with
  | nil => rfl
  | cons l ls ih =>
    have hls := ih (fun l' hl' => feed l' (List.mem_cons_of_mem _ hl'))
    rw [List.flatMap_cons, List.append_assoc, List.singleton_append,
      lines_append_cons _ (feed l List.mem_cons_self), hls, List.map_cons]

/-- Lines that are written one after the other are read back. -/
theorem lines_flatMap (ls : List (List Char)) (feed : ∀ l ∈ ls, '\n' ∉ l)
    (cr : ∀ l ∈ ls, l.getLast? ≠ some '\r') : lines (ls.flatMap (· ++ ['\n'])) = ls := by
  have strip : ∀ l ∈ ls, stripCr l = l := fun l hl => stripCr_of_getLast? (cr l hl)
  rw [lines_flatMap_stripCr ls feed, List.map_congr_left strip, List.map_id']

/-- A piece ends at its separator. -/
theorem splitn_append_cons {x : Char} {piece : List Char} (n : Nat) (text : List Char)
    (sep : x ∉ piece) : splitn (n + 2) x (piece ++ x :: text) = piece :: splitn (n + 1) x text := by
  have before : ∀ c ∈ piece, (c != x) = true := by
    intro c hc
    rw [bne_iff_ne]
    rintro rfl
    exact sep hc
  have span : (piece ++ x :: text).span (· != x) = (piece, x :: text) := by
    rw [List.span_eq_takeWhile_dropWhile, List.takeWhile_append_of_pos before,
      List.dropWhile_append_of_pos before]
    simp
  rw [splitn, span]

/-- Text before the first separator belongs to the first piece. -/
theorem splitOn_append_of_not_mem {x : Char} {a b head : List Char} {tail : List (List Char)}
    (h : x ∉ a) (split : b.splitOn x = head :: tail) :
    (a ++ b).splitOn x = (a ++ head) :: tail := by
  induction a with
  | nil => exact split
  | cons c cs ih =>
    rw [List.mem_cons, not_or] at h
    have ne : (c == x) = false := beq_eq_false_iff_ne.mpr (Ne.symm h.1)
    rw [List.cons_append, List.splitOn_cons_eq_if_modifyHead, ne, ih h.2]
    rfl

/-- Pieces joined by a separator are split at the separator and wherever they hold it. -/
theorem splitOn_intercalate_flatMap (x : Char) (pieces : List (List Char)) (ne : pieces ≠ []) :
    ([x].intercalate pieces).splitOn x = pieces.flatMap (List.splitOn x) := by
  induction pieces with
  | nil => exact absurd rfl ne
  | cons p ps ih =>
    cases ps with
    | nil => simp
    | cons q qs =>
      rw [List.intercalate_cons_cons, List.append_assoc, List.singleton_append,
        List.splitOn_append_cons_self, ih (List.cons_ne_nil q qs)]
      rfl

/-- A reading that skips the empty text sees the pieces only. -/
theorem filterMap_splitOn {α : Type} (x : Char) (pieces : List (List Char))
    {f : List Char → Option α} (empty : f [] = none) :
    (([x].intercalate pieces).splitOn x).filterMap f =
      pieces.flatMap (fun p => (p.splitOn x).filterMap f) := by
  cases pieces with
  | nil => simp [empty]
  | cons p ps =>
    rw [splitOn_intercalate_flatMap x _ (List.cons_ne_nil p ps), List.filterMap_flatMap]

/-- `str::trim_end_matches` for one character. -/
def trimEndMatches (x : Char) (text : List Char) : List Char := text.rdropWhile (· == x)

/-- Separators at the end make only empty pieces. -/
theorem filter_splitOn_trimEndMatches (x : Char) (text : List Char) :
    ((trimEndMatches x text).splitOn x).filter (!·.isEmpty) =
      (text.splitOn x).filter (!·.isEmpty) := by
  induction text using List.reverseRecOn with
  | nil => rfl
  | append_singleton text c ih =>
    unfold trimEndMatches at ih ⊢
    rw [List.rdropWhile_concat]
    split
    · rename_i hc
      rw [ih, eq_of_beq hc, List.splitOn_append_cons_self, List.filter_append]
      simp
    · rfl

/-- Nothing but one value for each element comes out exactly when there is nothing else. -/
theorem flatMap_cons_eq_map_iff {α β : Type} (l : List α) (f : α → β) (g : α → List β) :
    l.flatMap (fun a => f a :: g a) = l.map f ↔ ∀ a ∈ l, g a = [] := by
  have longer (l : List α) : l.length ≤ (l.flatMap (fun a => f a :: g a)).length := by
    induction l with
    | nil => exact Nat.le_refl _
    | cons a l ih =>
      rw [List.flatMap_cons, List.length_append, List.length_cons, List.length_cons]
      omega
  induction l with
  | nil => simp
  | cons a l ih =>
    rw [List.flatMap_cons, List.map_cons, List.cons_append, List.cons.injEq, List.forall_mem_cons]
    constructor
    · rintro ⟨-, eq⟩
      have len := congrArg List.length eq
      rw [List.length_append, List.length_map] at len
      have := longer l
      have empty : g a = [] := List.eq_nil_of_length_eq_zero (by omega)
      rw [empty, List.nil_append] at eq
      exact ⟨empty, ih.mp eq⟩
    · rintro ⟨empty, rest⟩
      rw [empty, List.nil_append]
      exact ⟨rfl, ih.mpr rest⟩

/-- Joined pieces are split again; no pieces at all join to an empty one, which is dropped. -/
theorem filterMap_splitOn_of_not_mem {α : Type} (x : Char) (pieces : List (List Char))
    {f : List Char → Option α} (empty : f [] = none) (sep : ∀ p ∈ pieces, x ∉ p) :
    (([x].intercalate pieces).splitOn x).filterMap f = pieces.filterMap f := by
  cases pieces with
  | nil => simp [empty]
  | cons p ps => rw [List.splitOn_intercalate x sep (List.cons_ne_nil p ps)]

/-- The same for a search. -/
theorem any_splitOn (x : Char) (pieces : List (List Char)) {f : List Char → Bool}
    (empty : f [] = false) (sep : ∀ p ∈ pieces, x ∉ p) :
    (([x].intercalate pieces).splitOn x).any f = pieces.any f := by
  cases pieces with
  | nil => simp [empty]
  | cons p ps => rw [List.splitOn_intercalate x sep (List.cons_ne_nil p ps)]

/-- A piece more is joined behind the others. -/
theorem intercalate_concat {x : Char} {pieces : List (List Char)} (p : List Char)
    (ne : pieces ≠ []) :
    [x].intercalate (pieces ++ [p]) = [x].intercalate pieces ++ [x] ++ p := by
  induction pieces with
  | nil => exact absurd rfl ne
  | cons q qs ih =>
    cases qs with
    | nil => simp
    | cons r rs =>
      have tail := ih (List.cons_ne_nil r rs)
      rw [List.cons_append, List.cons_append, List.intercalate_cons_cons, ← List.cons_append, tail,
        List.intercalate_cons_cons]
      simp only [List.append_assoc]

/-- Joined text has characters of the pieces and the separator. -/
theorem not_mem_intercalate {x c : Char} {pieces : List (List Char)} (sep : c ≠ x)
    (h : ∀ p ∈ pieces, c ∉ p) : c ∉ [x].intercalate pieces := by
  induction pieces with
  | nil => simp
  | cons p ps ih =>
    have hp := h p List.mem_cons_self
    have hps := ih (fun q hq => h q (List.mem_cons_of_mem _ hq))
    cases ps with
    | nil => simpa using hp
    | cons q qs =>
      rw [List.intercalate_cons_cons, List.mem_append, List.mem_append, List.mem_singleton]
      tauto

/-- The last piece ends the text. -/
theorem getLast?_intercalate_concat {x c : Char} {pieces : List (List Char)} {last : List Char}
    (sep : c ≠ x) (ne : pieces ≠ []) (h : c ∉ last) :
    ([x].intercalate (pieces ++ [last])).getLast? ≠ some c := by
  rw [intercalate_concat last ne, List.getLast?_append]
  cases end_ : last.getLast? with
  | none =>
    rw [Option.none_or, List.getLast?_concat, ne_eq, Option.some.injEq]
    exact fun eq => sep eq.symm
  | some d =>
    rw [Option.some_or, ne_eq, Option.some.injEq]
    rintro rfl
    exact h (List.mem_of_getLast? end_)

/-- Splitting at a character that was put in the place of several ones. -/
theorem splitOn_map (x : Char) (f : Char → Char) (keep : ∀ c, (f c == x) = false → f c = c)
    (text : List Char) : (text.map f).splitOn x = text.splitOnP (fun c => f c == x) := by
  induction text with
  | nil => rfl
  | cons c cs ih =>
    rw [List.map_cons, List.splitOn_cons_eq_if_modifyHead, List.splitOnP_cons_eq_if_modifyHead, ih]
    cases h : f c == x with
    | true => rfl
    | false => rw [keep c h]

/-! ### Numbers -/

/-- The decimal text of an integer. -/
def decimal (n : Int) : List Char :=
  if n < 0 then '-' :: Nat.toDigits 10 n.natAbs else Nat.toDigits 10 n.natAbs

/-- Decimal digits, at least one. -/
def parseDigits (text : List Char) : Option Nat :=
  if text.isEmpty || !text.all Char.isDigit then none else some (Nat.ofDigitChars 10 text 0)

/-- `str::parse` of an unsigned type whose largest value is `max`. -/
def parseUnsigned (max : Nat) (text : List Char) : Option Nat :=
  let digits := match text with
    | '+' :: rest => rest
    | _ => text
  (parseDigits digits).filter (· ≤ max)

/-- `str::parse` of a signed type of `w + 1` bits. -/
def parseSigned (w : Nat) (text : List Char) : Option Int :=
  match text with
  | '-' :: rest => ((parseDigits rest).filter (· ≤ 2 ^ w)).map (fun n : Nat => -(n : Int))
  | _ => (parseUnsigned (2 ^ w - 1) text).map (fun n : Nat => (n : Int))

/-- The digits of a number are digits. -/
theorem toDigits_isDigit {n : Nat} {c : Char} (h : c ∈ Nat.toDigits 10 n) : c.isDigit = true :=
  Nat.isDigit_of_mem_toDigits (by decide) (by decide) h

/-- No other character stands in the digits of a number. -/
theorem not_mem_toDigits {n : Nat} {c : Char} (h : c.isDigit = false) : c ∉ Nat.toDigits 10 n := by
  intro mem
  rw [toDigits_isDigit mem] at h
  exact absurd h (by decide)

/-- No other character but the sign stands in a decimal. -/
theorem not_mem_decimal {n : Int} {c : Char} (h : c.isDigit = false) (minus : c ≠ '-') :
    c ∉ decimal n := by
  unfold decimal
  split_ifs
  · rw [List.mem_cons, not_or]
    exact ⟨minus, not_mem_toDigits h⟩
  · exact not_mem_toDigits h

/-- A number is read back from its digits. -/
theorem parseDigits_toDigits (n : Nat) : parseDigits (Nat.toDigits 10 n) = some n := by
  have ne : (Nat.toDigits 10 n).isEmpty = false := by
    rw [List.isEmpty_eq_false_iff]
    exact Nat.toDigits_ne_nil
  have digits : (Nat.toDigits 10 n).all Char.isDigit = true := by
    rw [List.all_eq_true]
    intro c hc
    exact toDigits_isDigit hc
  rw [parseDigits, ne, digits, Nat.ofDigitChars_ten_toDigits]
  rfl

/-- Digits start with no sign. -/
theorem toDigits_ne_cons {n : Nat} {c : Char} (h : c.isDigit = false) (rest : List Char) :
    Nat.toDigits 10 n ≠ c :: rest := by
  intro eq
  have mem : c ∈ Nat.toDigits 10 n := by
    rw [eq]
    exact List.mem_cons_self
  exact not_mem_toDigits h mem

/-- A text that does not hold a character ends where the character stands. -/
theorem append_cons_inj {c : Char} {a b s t : List Char} (ha : c ∉ a) (hb : c ∉ b)
    (h : a ++ c :: s = b ++ c :: t) : a = b ∧ s = t := by
  induction a generalizing b with
  | nil =>
    cases b with
    | nil => exact ⟨rfl, (List.cons.inj h).2⟩
    | cons y b =>
      have hy : c = y := (List.cons.inj h).1
      exact absurd (hy ▸ List.mem_cons_self) hb
  | cons x a ih =>
    cases b with
    | nil =>
      have hx : x = c := (List.cons.inj h).1
      exact absurd (hx ▸ List.mem_cons_self) ha
    | cons y b =>
      obtain ⟨hxy, hrest⟩ := List.cons.inj h
      obtain ⟨hab, hst⟩ := ih (fun hc => ha (List.mem_cons_of_mem x hc))
        (fun hc => hb (List.mem_cons_of_mem y hc)) hrest
      exact ⟨by rw [hxy, hab], hst⟩

/-- A number ends at the first character that is no digit. -/
theorem toDigits_append_inj {m n : Nat} {c : Char} (hc : c.isDigit = false) {s t : List Char}
    (h : Nat.toDigits 10 m ++ c :: s = Nat.toDigits 10 n ++ c :: t) : m = n ∧ s = t := by
  obtain ⟨hdigits, hrest⟩ := append_cons_inj (not_mem_toDigits hc) (not_mem_toDigits hc) h
  have hparse := congrArg parseDigits hdigits
  rw [parseDigits_toDigits, parseDigits_toDigits, Option.some.injEq] at hparse
  exact ⟨hparse, hrest⟩

/-- A number in range is read back from its digits. -/
theorem parseUnsigned_toDigits {max n : Nat} (h : n ≤ max) :
    parseUnsigned max (Nat.toDigits 10 n) = some n := by
  unfold parseUnsigned
  split
  · rename_i rest eq
    exact absurd eq (toDigits_ne_cons (by decide) rest)
  · simp [parseDigits_toDigits, h]

/-- A natural number in range is read back from its decimal. -/
theorem parseUnsigned_decimal {max n : Nat} (h : n ≤ max) :
    parseUnsigned max (decimal n) = some n := by
  have nonneg : ¬ (n : Int) < 0 := by omega
  rw [decimal, if_neg nonneg, Int.natAbs_natCast, parseUnsigned_toDigits h]

/-- An integer in range is read back from its decimal. -/
theorem parseSigned_decimal {w : Nat} {n : Int} (lo : -2 ^ w ≤ n) (hi : n < 2 ^ w) :
    parseSigned w (decimal n) = some n := by
  have cast : ((2 ^ w : Nat) : Int) = 2 ^ w := by simp
  unfold decimal
  split_ifs with neg
  · have le : n.natAbs ≤ 2 ^ w := by omega
    have back : -(n.natAbs : Int) = n := by omega
    show ((parseDigits (Nat.toDigits 10 n.natAbs)).filter (· ≤ 2 ^ w)).map
      (fun n : Nat => -(n : Int)) = some n
    rw [parseDigits_toDigits, Option.filter_some, if_pos (decide_eq_true le), Option.map_some, back]
  · have le : n.natAbs ≤ 2 ^ w - 1 := by omega
    have back : (n.natAbs : Int) = n := by omega
    unfold parseSigned
    split
    · rename_i rest eq
      exact absurd eq (toDigits_ne_cons (by decide) rest)
    · rw [parseUnsigned_toDigits le, Option.map_some, back]

/-! ### Bytes -/

/-- `str::as_bytes`. -/
def utf8 (text : List Char) : List UInt8 := text.flatMap String.utf8EncodeChar

/-- Different texts have different bytes. -/
theorem utf8_injective : Function.Injective utf8 := by
  intro a b h
  have hbytes : a.utf8Encode = b.utf8Encode := congrArg List.toByteArray h
  have hstring : String.ofList a = String.ofList b := String.toByteArray_inj.mp hbytes
  exact String.ofList_injective hstring

/-- A text that is not empty has bytes. -/
theorem length_utf8_pos {text : List Char} (h : text ≠ []) : 0 < (utf8 text).length := by
  obtain ⟨c, rest, rfl⟩ := List.exists_cons_of_ne_nil h
  have hc := List.length_pos_of_ne_nil (String.utf8EncodeChar_ne_nil (c := c))
  rw [utf8, List.flatMap_cons, List.length_append]
  omega

end Text
