import EntityRelation.Source.LineStarts
import Mathlib.Data.List.Induction

/-!
# Places and offsets

A place is found from an offset by walking over the text, an offset from a place by dropping lines,
and a table of line starts remembers where the lines begin. The three meet in the split of a text
into what stands before a spot and what stands behind it: every spot has one offset
(`byteLength` of the front) and one place (`Place.advance` over the front), and a front is a run of
whole lines followed by the beginning of one (`exists_lines`).
-/

namespace EntityRelation

namespace Source

/-- The offset lies between two characters of the text, or at one of its ends. -/
def IsBoundary (text : List Char) (offset : Nat) : Prop :=
  ∃ front back, text = front ++ back ∧ Text.byteLength front = offset

/-- Whole lines: nothing, or a text that ends in a line feed. -/
def WholeLines (cs : List Char) : Prop :=
  ∀ c ∈ cs.getLast?, c = '\n'

/-- The place names a character of the text or its end: behind some whole lines, one fewer than its
line says, stands a piece of a line, one shorter than its column says. -/
def Names (text : List Char) (place : Place) : Prop :=
  ∃ lines piece rest, text = lines ++ piece ++ rest ∧ WholeLines lines ∧ '\n' ∉ piece ∧
    place = ⟨lines.count '\n' + 1, piece.length + 1⟩

/-- The place of a position. -/
def Position.place (p : Position) : Place :=
  ⟨p.line, p.column⟩

theorem IsBoundary.le {text : List Char} {offset : Nat} (h : IsBoundary text offset) :
    offset ≤ Text.byteLength text := by
  obtain ⟨front, back, rfl, rfl⟩ := h
  simp

/-! ## Whole lines and a piece of a line -/

theorem WholeLines.nil : WholeLines [] := by
  simp [WholeLines]

theorem WholeLines.concat (cs : List Char) : WholeLines (cs ++ ['\n']) := by
  simp [WholeLines]

theorem WholeLines.of_cons {c d : Char} {cs : List Char} (h : WholeLines (c :: d :: cs)) :
    WholeLines (d :: cs) := by
  simpa [WholeLines, List.getLast?_cons_cons] using h

/-- Every text is a number of whole lines and a piece of a line. -/
theorem exists_lines (front : List Char) : ∃ lines piece,
    front = lines ++ piece ∧ WholeLines lines ∧ '\n' ∉ piece := by
  induction front using List.reverseRecOn with
  | nil => exact ⟨[], [], rfl, WholeLines.nil, List.not_mem_nil⟩
  | append_singleton front c ih =>
      obtain ⟨lines, piece, rfl, hlines, hpiece⟩ := ih
      by_cases hc : c = '\n'
      · exact ⟨lines ++ piece ++ [c], [], by simp, hc ▸ WholeLines.concat _, List.not_mem_nil⟩
      · exact ⟨lines, piece ++ [c], by simp, hlines, by simp [hpiece, Ne.symm hc]⟩

theorem advance_piece {piece : List Char} (h : '\n' ∉ piece) (p : Place) :
    p.advance piece = ⟨p.line, p.column + piece.length⟩ := by
  induction piece generalizing p with
  | nil => rfl
  | cons c rest ih =>
      obtain ⟨hc, hrest⟩ := List.ne_and_not_mem_of_not_mem_cons h
      rw [Place.advance_cons, Place.after, if_neg (Ne.symm hc), ih hrest, List.length_cons]
      exact congrArg (Place.mk p.line) (Nat.add_right_comm p.column 1 rest.length)

theorem advance_line (p : Place) (lines : List Char) :
    (p.advance lines).line = p.line + lines.count '\n' := by
  induction lines generalizing p with
  | nil => rfl
  | cons c rest ih =>
      rw [Place.advance_cons, ih, Place.after, List.count_cons]
      by_cases hc : c = '\n'
      · simp [hc]
        omega
      · simp [hc]

theorem advance_wholeLines {lines : List Char} (h : WholeLines lines) (l : Nat) :
    (Place.mk l 1).advance lines = ⟨l + lines.count '\n', 1⟩ := by
  cases lines using List.reverseRecOn with
  | nil => rfl
  | append_singleton front c =>
      obtain rfl : c = '\n' := h c (by simp)
      have hline := advance_line ⟨l, 1⟩ (front ++ ['\n'])
      rw [Place.advance_append, Place.advance_cons, Place.advance_nil, Place.after,
        if_pos rfl] at hline ⊢
      exact congrArg (Place.mk · 1) hline

/-- The place behind whole lines and a piece of a line. -/
theorem advance_lines {lines piece : List Char} (hlines : WholeLines lines) (hpiece : '\n' ∉ piece) :
    Place.start.advance (lines ++ piece) = ⟨lines.count '\n' + 1, piece.length + 1⟩ := by
  rw [Place.advance_append, Place.start, advance_wholeLines hlines, advance_piece hpiece,
    Nat.add_comm 1, Nat.add_comm 1]

/-- A place names a spot of a text exactly when a walk from the start passes it. -/
theorem names_iff {text : List Char} {place : Place} :
    Names text place ↔ ∃ front back, text = front ++ back ∧ place = Place.start.advance front := by
  constructor
  · rintro ⟨lines, piece, rest, rfl, hlines, hpiece, rfl⟩
    exact ⟨lines ++ piece, rest, rfl, (advance_lines hlines hpiece).symm⟩
  · rintro ⟨front, back, rfl, rfl⟩
    obtain ⟨lines, piece, rfl, hlines, hpiece⟩ := exists_lines front
    exact ⟨lines, piece, back, rfl, hlines, hpiece, advance_lines hlines hpiece⟩

/-! ## From an offset to its place -/

theorem placeOfOffset_append (p : Place) (offset : Nat) (front back : List Char) :
    placeOfOffset p offset (offset + Text.byteLength front) (front ++ back) = p.advance front := by
  induction front generalizing p offset with
  | nil => cases back <;> simp [placeOfOffset]
  | cons c rest ih =>
      have hwidth : 0 < c.utf8Size := c.utf8Size_pos
      have hbefore : ¬ offset + Text.byteLength (c :: rest) ≤ offset := by
        rw [Text.byteLength_cons]
        omega
      rw [List.cons_append, placeOfOffset, if_neg hbefore, Text.byteLength_cons, ← Nat.add_assoc, ih,
        Place.advance_cons]

theorem ofOffset_append (front back : List Char) :
    (Position.ofOffset (front ++ back) (Text.byteLength front)).place = Place.start.advance front := by
  have h := placeOfOffset_append .start 0 front back
  rw [Nat.zero_add] at h
  rw [Position.ofOffset, h]
  rfl

/-! ## From a place to its offset -/

theorem dropLines_append {lines : List Char} (h : WholeLines lines) (tail : List Char) :
    dropLines (lines.count '\n') (lines ++ tail) = tail := by
  induction lines with
  | nil => rw [List.count_nil, List.nil_append, dropLines]
  | cons c rest ih =>
      have hrest : WholeLines rest := by
        cases rest with
        | nil => exact WholeLines.nil
        | cons d rest => exact h.of_cons
      by_cases hc : c = '\n'
      · rw [hc, List.count_cons_self, List.cons_append, dropLines, if_pos rfl, ih hrest]
      · -- the line goes on behind `c`, so a line feed follows
        have hfeed : rest.count '\n' ≠ 0 := by
          intro hnone
          cases rest with
          | nil => exact hc (h c rfl)
          | cons d rest =>
              obtain ⟨last, hlast⟩ := List.getLast?_isSome.2 (List.cons_ne_nil d rest) |>
                Option.isSome_iff_exists.1
              have hmem := List.mem_of_getLast? hlast
              rw [hrest last hlast] at hmem
              exact absurd hmem (List.count_eq_zero.1 hnone)
        obtain ⟨n, hn⟩ := Nat.exists_eq_succ_of_ne_zero hfeed
        rw [List.count_cons_of_ne hc, hn, List.cons_append, dropLines, if_neg hc,
          ← Nat.succ_eq_add_one, ← hn, ih hrest]

theorem ofPlace_append (front back : List Char) :
    (Position.ofPlace (front ++ back) (Place.start.advance front)).offset = Text.byteLength front := by
  obtain ⟨lines, piece, rfl, hlines, hpiece⟩ := exists_lines front
  rw [advance_lines hlines hpiece, Position.ofPlace]
  simp only [Nat.add_sub_cancel, List.append_assoc, dropLines_append hlines, List.drop_left,
    Text.byteLength_append]
  omega

theorem dropLines_suffix (n : Nat) (text : List Char) : dropLines n text <:+ text := by
  fun_induction dropLines n text with
  | case1 => exact List.suffix_refl _
  | case2 => exact List.suffix_refl _
  | case3 n rest ih => exact ih.trans (List.suffix_cons _ rest)
  | case4 n c rest _ ih => exact ih.trans (List.suffix_cons c rest)

/-- Whatever the place, its offset is a boundary. -/
theorem isBoundary_ofPlace (text : List Char) (place : Place) :
    IsBoundary text (Position.ofPlace text place).offset := by
  obtain ⟨front, hfront⟩ := (List.drop_suffix (place.column - 1) _).trans
    (dropLines_suffix (place.line - 1) text)
  refine ⟨front, _, hfront.symm, ?_⟩
  have htotal := congrArg Text.byteLength hfront
  rw [Text.byteLength_append] at htotal
  rw [Position.ofPlace]
  dsimp only
  omega

/-! ## The table of line starts -/

namespace LineStarts

theorem dropBytes_append (front back : List Char) :
    dropBytes (Text.byteLength front) (front ++ back) = back := by
  induction front with
  | nil => cases back <;> simp [dropBytes]
  | cons c rest ih =>
      have hwidth : c.utf8Size ≠ 0 := Nat.ne_of_gt c.utf8Size_pos
      rw [Text.byteLength_cons, List.cons_append, dropBytes, if_neg (by omega),
        Nat.add_sub_cancel_left, ih]

/-- The table says where the text is that is left when lines are dropped, and misses a line only
where nothing is left. -/
theorem getElem?_starts (offset n : Nat) (text : List Char) :
    (offset :: afterLineFeeds offset text)[n]? =
      if n ≤ text.count '\n' then
        some (offset + (Text.byteLength text - Text.byteLength (dropLines n text)))
      else none := by
  induction text generalizing offset n with
  | nil => cases n <;> simp [afterLineFeeds, dropLines]
  | cons c rest ih =>
      cases n with
      | zero => simp [dropLines]
      | succ n =>
          have hle : ∀ n, Text.byteLength (dropLines n rest) ≤ Text.byteLength rest := by
            intro n
            obtain ⟨front, hfront⟩ := dropLines_suffix n rest
            have htotal := congrArg Text.byteLength hfront
            rw [Text.byteLength_append] at htotal
            omega
          by_cases hc : c = '\n'
          · have hn := hle n
            rw [List.getElem?_cons_succ, afterLineFeeds, if_pos hc, ih, hc, dropLines, if_pos rfl,
              List.count_cons_self, Text.byteLength_cons]
            simp only [Nat.add_le_add_iff_right]
            split
            · exact congrArg some (by omega)
            · rfl
          · have hn := hle (n + 1)
            have hstep := ih (offset + c.utf8Size) (n + 1)
            rw [List.getElem?_cons_succ] at hstep
            rw [List.getElem?_cons_succ, afterLineFeeds, if_neg hc, hstep, dropLines, if_neg hc,
              List.count_cons_of_ne hc, Text.byteLength_cons]
            split
            · exact congrArg some (by omega)
            · rfl

theorem dropLines_eq_nil {n : Nat} {text : List Char} (h : text.count '\n' < n) :
    dropLines n text = [] := by
  fun_induction dropLines n text with
  | case1 => omega
  | case2 => rfl
  | case3 n rest ih => exact ih (by simpa using h)
  | case4 n c rest hc ih => exact ih (by simpa [hc] using h)

/-- The table and the walk over the lines find the same offset. -/
theorem offset_ofText (text : List Char) {place : Place} (h : 1 ≤ place.line) :
    (ofText text).offset place = (Position.ofPlace text place).offset := by
  obtain ⟨line, column⟩ := place
  obtain ⟨n, rfl⟩ := Nat.exists_eq_add_of_le' h
  rw [offset, lineStart?, ofText, getElem?_starts, Position.ofPlace]
  dsimp only
  rw [Nat.add_sub_cancel, Nat.zero_add]
  by_cases hn : n ≤ text.count '\n'
  · obtain ⟨front, hfront⟩ := dropLines_suffix n text
    have htotal := congrArg Text.byteLength hfront
    rw [Text.byteLength_append] at htotal
    have hdrop : dropBytes (Text.byteLength front) text = dropLines n text := by
      conv_lhs => rw [← hfront]
      exact dropBytes_append front _
    have hstart : Text.byteLength text - Text.byteLength (dropLines n text) =
        Text.byteLength front := by omega
    rw [if_pos hn, hstart]
    dsimp only
    rw [hdrop]
    split
    · have hline := congrArg Text.byteLength
        (List.take_append_drop (column - 1) (dropLines n text))
      rw [Text.byteLength_append] at hline
      omega
    · next hbehind =>
      rw [List.drop_eq_nil_of_le (Nat.le_of_not_lt hbehind), Text.byteLength_nil, Nat.sub_zero]
  · rw [if_neg hn, dropLines_eq_nil (Nat.lt_of_not_le hn), List.drop_nil, Text.byteLength_nil,
      Nat.sub_zero]

end LineStarts

/-- Offsets and the places that they lie at belong together one to one, and both ways to an offset
agree on every place, existing or not. -/
theorem places_and_offsets (text : List Char) :
    (∀ offset, IsBoundary text offset →
      (Position.ofPlace text (Position.ofOffset text offset).place).offset = offset) ∧
      (∀ place, Names text place →
        (Position.ofOffset text (Position.ofPlace text place).offset).place = place) ∧
      ∀ place : Place, 1 ≤ place.line →
        (LineStarts.ofText text).offset place = (Position.ofPlace text place).offset ∧
          (Position.ofPlace text place).offset ≤ Text.byteLength text ∧
          IsBoundary text (Position.ofPlace text place).offset := by
  refine ⟨?_, ?_, fun place hline => ?_⟩
  · rintro offset ⟨front, back, rfl, rfl⟩
    rw [ofOffset_append, ofPlace_append]
  · intro place hplace
    obtain ⟨front, back, rfl, rfl⟩ := names_iff.1 hplace
    rw [ofPlace_append, ofOffset_append]
  · have hboundary := isBoundary_ofPlace text place
    exact ⟨LineStarts.offset_ofText text hline, hboundary.le, hboundary⟩

/-- A character of two bytes, an empty line, a column behind the end of its line and a line behind
the end of the text. -/
theorem places_and_offsets_emptyLine :
    (Position.ofPlace "é\n\nb".toList (Position.ofOffset "é\n\nb".toList 3).place).offset = 3 ∧
      (Position.ofOffset "é\n\nb".toList
        (Position.ofPlace "é\n\nb".toList ⟨2, 1⟩).offset).place = ⟨2, 1⟩ ∧
      (LineStarts.ofText "é\n\nb".toList).offset ⟨1, 4⟩ = 4 ∧
      (LineStarts.ofText "é\n\nb".toList).offset ⟨7, 1⟩ = 5 := by
  obtain ⟨hoffset, hplace, hline⟩ := places_and_offsets "é\n\nb".toList
  refine ⟨hoffset 3 ⟨"é\n".toList, "\nb".toList, by decide, by decide⟩,
    hplace ⟨2, 1⟩ ⟨"é\n".toList, [], "\nb".toList, by decide, ?_, by decide, by decide⟩, ?_, ?_⟩
  · simp [WholeLines]
  · exact (hline ⟨1, 4⟩ (by decide)).1.trans (by decide)
  · exact (hline ⟨7, 1⟩ (by decide)).1.trans (by decide)

end Source

end EntityRelation
