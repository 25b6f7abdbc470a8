import ContainerBuild.Text.Lines
import ContainerBuild.Text.Utf8

/-!
# Cutting texts and their bytes

A text may be cut before or after it is written as bytes: no character but the separator has the
separator's byte in it.

* `Text.splitLines_indent`, `Text.indent_injective` — an indented text has the lines of the text.
* `Text.linesBehind?_indent` — they stand behind the indent, which every line starts with.
* `Text.trimEnd_eq_iff` — texts that differ in the white space at their ends.
* `Utf8.mem_encodeChar_iff` — a byte below 128 occurs only where its own character is written.
* `Utf8.splitOn_encode` — the parts of the bytes are the bytes of the parts.
* `Utf8.encode_injective` — two texts with the same bytes are the same.
-/

namespace ContainerBuild

namespace Text

variable {α : Type} [BEq α]

/-- No part has the separator in it. -/
theorem notMem_of_mem_splitOn [LawfulBEq α] {separator : α} {s part : List α}
    (hpart : part ∈ s.splitOn separator) : separator ∉ part := by
  induction s generalizing part with
  | nil => simp_all
  | cons c rest ih =>
    rw [List.splitOn_cons_eq_if_modifyHead] at hpart
    split at hpart
    · rcases List.mem_cons.1 hpart with rfl | hpart
      · exact List.not_mem_nil
      · exact ih hpart
    next hc =>
      -- only the first part grows, and not by a separator
      obtain ⟨first, parts, hsplit⟩ :=
        List.exists_cons_of_ne_nil (List.splitOn_ne_nil separator rest)
      rw [hsplit, List.modifyHead_cons] at hpart
      rcases List.mem_cons.1 hpart with rfl | hpart
      · have hfirst : separator ∉ first := ih (by rw [hsplit]; exact List.mem_cons_self)
        have hne : separator ≠ c := by rintro rfl; simp at hc
        simp [hfirst, hne]
      · exact ih (by rw [hsplit]; exact List.mem_cons_of_mem _ hpart)

omit [BEq α] in
/-- What is put together from parts has, besides separators, the elements of the parts. -/
theorem mem_intercalate_iff {separator a : α} (ha : a ≠ separator) {parts : List (List α)} :
    a ∈ [separator].intercalate parts ↔ ∃ part ∈ parts, a ∈ part := by
  induction parts with
  | nil => simp
  | cons part rest ih =>
    cases rest with
    | nil => simp
    | cons part' rest =>
      rw [List.intercalate_cons_cons, List.mem_append, List.mem_append, ih]
      simp [ha]

omit [BEq α] in
/-- Two lists that are cut where a property first fails have the same parts. -/
theorem append_inj_of_stop {p : α → Bool} {l l' r r' : List α}
    (hl : ∀ a ∈ l, p a = true) (hl' : ∀ a ∈ l', p a = true)
    (hr : ∀ a, r.head? = some a → p a = false) (hr' : ∀ a, r'.head? = some a → p a = false)
    (h : l ++ r = l' ++ r') : l = l' ∧ r = r' := by
  have htake {l r : List α} (hl : ∀ a ∈ l, p a = true)
      (hr : ∀ a, r.head? = some a → p a = false) : (l ++ r).takeWhile p = l := by
    rw [List.takeWhile_append_of_pos hl]
    cases r with
    | nil => simp
    | cons a rest => simp [hr a rfl]
  have hfirst : l = l' := by rw [← htake hl hr, h, htake hl' hr']
  subst hfirst
  exact ⟨rfl, List.append_cancel_left h⟩

/-! ### Lines of a text -/

/-- The lines of a text make up the text again. -/
theorem joinLines_splitLines (s : String) : joinLines (splitLines s) = s := by
  apply String.toList_inj.1
  simp [joinLines, splitLines, String.toList_intercalate, Function.comp_def,
    List.intercalate_splitOn]

/-- Lines that are put together are told apart again. -/
theorem splitLines_joinLines {lines : List String} (hne : lines ≠ [])
    (hlines : ∀ line ∈ lines, '\n' ∉ line.toList) : splitLines (joinLines lines) = lines := by
  have hcut : (joinLines lines).toList.splitOn '\n' = lines.map String.toList := by
    rw [joinLines, String.toList_intercalate]
    exact List.splitOn_intercalate _ (by simpa using hlines) (by simpa using hne)
  rw [splitLines, hcut]
  simp [Function.comp_def]

/-- An indented text has the lines of the text, each behind the bar. -/
theorem splitLines_indent {bar : String} (hbar : '\n' ∉ bar.toList) (s : String) :
    splitLines (indent bar s) = (splitLines s).map (bar ++ ·) := by
  apply splitLines_joinLines
  · simp [splitLines]
  · intro line hline
    obtain ⟨part, hpart, rfl⟩ := List.mem_map.1 hline
    obtain ⟨inner, hinner, rfl⟩ := List.mem_map.1 hpart
    simp [hbar, notMem_of_mem_splitOn hinner]

/-- Indented texts are the same only if the texts are. -/
theorem indent_injective {bar : String} (hbar : '\n' ∉ bar.toList) {s t : String}
    (h : indent bar s = indent bar t) : s = t := by
  have hlines : splitLines s = splitLines t := by
    rw [← List.map_inj_right (f := (bar ++ ·)) fun _ _ => (String.append_right_inj bar).1,
      ← splitLines_indent hbar, ← splitLines_indent hbar, h]
  rw [← joinLines_splitLines s, hlines, joinLines_splitLines]

/-- A text without line feeds is one line. -/
theorem splitLines_of_notMem {s : String} (hs : '\n' ∉ s.toList) : splitLines s = [s] := by
  have hone : joinLines [s] = s := by simp [joinLines]
  rw [← splitLines_joinLines (List.cons_ne_nil s []) (by simpa using hs), hone]

/-- The lines in front of a line feed and those behind it are the lines of the whole. -/
theorem splitLines_append_newline (s t : String) :
    splitLines (s ++ "\n" ++ t) = splitLines s ++ splitLines t := by
  have hcut : (s ++ "\n" ++ t).toList = s.toList ++ '\n' :: t.toList := by simp
  rw [splitLines, hcut, List.splitOn_append_cons_self, List.map_append]
  rfl

/-- What stands behind `bar` on a line that starts with it. -/
def behind? (bar line : String) : Option String :=
  if bar.toList <+: line.toList then some (String.ofList (line.toList.drop bar.toList.length))
  else none

/-- The lines of a text without the bar in front of them, if all of them start with it. -/
def linesBehind? (bar s : String) : Option (List String) := (splitLines s).mapM (behind? bar)

theorem behind?_append (bar line : String) : behind? bar (bar ++ line) = some line := by
  simp [behind?]

/-- The lines behind the bar of an indented text are those of the text. -/
theorem linesBehind?_indent {bar : String} (hbar : '\n' ∉ bar.toList) (s : String) :
    linesBehind? bar (indent bar s) = some (splitLines s) := by
  have hbehind : (behind? bar ∘ fun line => bar ++ line) = some :=
    funext fun line => behind?_append bar line
  rw [linesBehind?, splitLines_indent hbar, List.mapM_map, hbehind]
  exact List.mapM_pure.trans (congrArg some (List.map_id _))

/-! ### White space at the end -/

/-- A text goes on with nothing but white space where it is trimmed, and not earlier. -/
theorem exists_append_trimEnd (s : String) :
    ∃ blanks, s = trimEnd s ++ blanks ∧ isAllBlank blanks = true ∧
      ∀ c, (trimEnd s).toList.getLast? = some c → isBlank c = false := by
  refine ⟨String.ofList (s.toList.reverse.takeWhile isBlank).reverse, ?_, ?_, fun c hc => ?_⟩
  · apply String.toList_inj.1
    rw [trimEnd, String.toList_append, String.toList_ofList, String.toList_ofList,
      ← List.reverse_append, List.takeWhile_append_dropWhile, List.reverse_reverse]
  · rw [isAllBlank, String.toList_ofList, List.all_reverse]
    exact List.all_takeWhile
  · have hlast := List.head?_dropWhile_not isBlank s.toList.reverse
    rw [trimEnd, String.toList_ofList, List.getLast?_reverse] at hc
    rw [hc] at hlast
    simpa using hlast

/-- White space at the end is trimmed. -/
theorem trimEnd_append {blanks : String} (hblanks : isAllBlank blanks = true) (s : String) :
    trimEnd (s ++ blanks) = trimEnd s := by
  have hall : ∀ c ∈ blanks.toList.reverse, isBlank c = true := by
    intro c hc
    exact List.all_eq_true.1 hblanks c (List.mem_reverse.1 hc)
  rw [trimEnd, String.toList_append, List.reverse_append, List.dropWhile_append_of_pos hall]
  rfl

/-- Two texts are the same when trimmed exactly if they differ in white space at their ends only. -/
theorem trimEnd_eq_iff (s t : String) :
    trimEnd s = trimEnd t ↔ ∃ kept blanks blanks', s = kept ++ blanks ∧ t = kept ++ blanks' ∧
      isAllBlank blanks = true ∧ isAllBlank blanks' = true := by
  constructor
  · intro h
    obtain ⟨blanks, hs, hblanks, -⟩ := exists_append_trimEnd s
    obtain ⟨blanks', ht, hblanks', -⟩ := exists_append_trimEnd t
    exact ⟨trimEnd s, blanks, blanks', hs, h ▸ ht, hblanks, hblanks'⟩
  · rintro ⟨kept, blanks, blanks', rfl, rfl, hblanks, hblanks'⟩
    rw [trimEnd_append hblanks, trimEnd_append hblanks']

end Text

namespace Utf8

/-- The byte of an ASCII character occurs in the bytes of no other character. -/
theorem mem_encodeChar_iff {a : Char} (ha : a.toNat < 128) (c : Char) :
    UInt8.ofNat a.toNat ∈ String.utf8EncodeChar c ↔ a = c := by
  have heq (n : Nat) : UInt8.ofNat a.toNat = UInt8.ofNat n ↔ a.toNat = n % 256 := by
    rw [← UInt8.toNat_inj, UInt8.toNat_ofNat', UInt8.toNat_ofNat', Nat.mod_eq_of_lt (by omega)]
  have hchar : a = c ↔ a.toNat = c.val.toNat := Char.toNat_inj.symm
  -- by the length of the encoding: in all but the shortest, every byte is at least 128
  rw [hchar]
  unfold String.utf8EncodeChar
  dsimp only
  split
  · simp only [List.mem_singleton, heq]
    omega
  · split
    · simp only [List.mem_cons, List.not_mem_nil, or_false, heq]
      omega
    · split <;>
      · simp only [List.mem_cons, List.not_mem_nil, or_false, heq]
        omega

/-- The byte of an ASCII character occurs in the bytes of a text exactly where the character does
in the text. -/
theorem mem_encode_iff {a : Char} (ha : a.toNat < 128) (s : String) :
    UInt8.ofNat a.toNat ∈ encode s ↔ a ∈ s.toList := by
  simp [encode, List.mem_flatMap, mem_encodeChar_iff ha]

theorem encode_append (s t : String) : encode (s ++ t) = encode s ++ encode t := by
  simp [encode]

/-- The bytes of joined texts are the joined bytes. -/
theorem encode_intercalate (separator : String) (parts : List String) :
    encode (separator.intercalate parts) =
      (encode separator).intercalate (parts.map encode) := by
  induction parts with
  | nil => simp [encode]
  | cons part rest ih =>
    cases rest with
    | nil => simp
    | cons part' rest =>
      rw [String.intercalate_cons_cons, encode_append, encode_append, ih]
      simp [List.intercalate_cons_cons]

/-- Two texts with the same bytes are the same. -/
theorem encode_injective {s t : String} (h : encode s = encode t) : s = t := by
  rw [← String.toByteArray_inj, ← String.utf8Encode_toList, ← String.utf8Encode_toList]
  exact congrArg List.toByteArray h

/-- An ASCII character is written as one byte. -/
theorem encode_singleton {a : Char} (ha : a.toNat < 128) :
    encode (String.singleton a) = [UInt8.ofNat a.toNat] := by
  have hshort : String.utf8EncodeChar a = [UInt8.ofNat a.toNat] := if_pos (Nat.le_of_lt_succ ha)
  simp [encode, hshort]

/-- The parts of the bytes between the bytes of an ASCII separator are the bytes of the parts. -/
theorem splitOn_encode {a : Char} (ha : a.toNat < 128) (s : String) :
    (encode s).splitOn (UInt8.ofNat a.toNat) =
      (s.toList.splitOn a).map fun part => encode (String.ofList part) := by
  -- cut the text first: its parts, joined by the separator, have the bytes to be cut
  let parts := (s.toList.splitOn a).map String.ofList
  have hjoined : s = (String.singleton a).intercalate parts := by
    apply String.toList_inj.1
    simp [parts, String.toList_intercalate, Function.comp_def, List.intercalate_splitOn]
  have hclean : ∀ bytes ∈ parts.map encode, UInt8.ofNat a.toNat ∉ bytes := by
    intro bytes hbytes
    simp only [parts, List.map_map, List.mem_map] at hbytes
    obtain ⟨part, hpart, rfl⟩ := hbytes
    rw [Function.comp_apply, mem_encode_iff ha, String.toList_ofList]
    exact Text.notMem_of_mem_splitOn hpart
  calc (encode s).splitOn (UInt8.ofNat a.toNat)
      = ([UInt8.ofNat a.toNat].intercalate (parts.map encode)).splitOn (UInt8.ofNat a.toNat) := by
        rw [← encode_singleton ha, ← encode_intercalate, ← hjoined]
    _ = parts.map encode := by
        rw [List.splitOn_intercalate _ hclean (by simp [parts])]
    _ = _ := by
        rw [List.map_map]
        rfl

end Utf8

end ContainerBuild
