import EntityRelation.Ddl.Statement
import EntityRelation.Proofs.Ddl.Reads
import EntityRelation.Proofs.Decimal.FloatText
import EntityRelation.Proofs.Text.Trim
import EntityRelation.Script.Render

/-!
# Positions read back

The position of a table stands in a comment in front of the table. The comment is one token up to
the end of its line, and finite coordinates are found in it again.
-/

namespace EntityRelation

namespace Text

theorem trim_cons_blank {c : Char} (h : isBlank c = true) (cs : List Char) :
    trim (c :: cs) = trim cs := by
  rw [trim, trimStart, List.dropWhile_cons_of_pos h]
  rfl

/-- A blank behind a trimmed text is trimmed away. -/
theorem trim_append_blank {c : Char} (h : isBlank c = true) {cs : List Char} (hcs : trim cs = cs)
    (hne : cs ≠ []) : trim (cs ++ [c]) = cs := by
  obtain ⟨d, ds, rfl⟩ := List.exists_cons_of_ne_nil hne
  have hfirst := ((trim_eq_self_iff (d :: ds)).1 hcs).1 d rfl
  have hstart : trimStart (d :: ds ++ [c]) = d :: ds ++ [c] := by
    rw [trimStart, List.cons_append, List.dropWhile_cons_of_neg (by simp [hfirst])]
  have hself : trimStart (d :: ds) = d :: ds := by
    rw [trimStart, List.dropWhile_cons_of_neg (by simp [hfirst])]
  rw [trim, hself] at hcs
  rw [trim, hstart, trimEnd_eq_rdropWhile, List.rdropWhile_concat_pos _ _ _ h,
    ← trimEnd_eq_rdropWhile, hcs]

theorem trim_delimited {c d : Char} (hc : isBlank c = false) (hd : isBlank d = false)
    (cs : List Char) : trim (c :: cs ++ [d]) = c :: cs ++ [d] := by
  rw [trim_eq_self_iff]
  constructor
  · intro e he
    obtain rfl := Option.some.inj he
    exact hc
  · intro e he
    rw [List.getLast?_append, List.getLast?_singleton, Option.some_or] at he
    obtain rfl := Option.some.inj he
    exact hd

end Text

namespace Ddl

/-- The characters of a coordinate. -/
def IsNumeral (cs : List Char) : Prop :=
  ∀ c ∈ cs, c.isDigit = true ∨ c = '.' ∨ c = '-'

theorem isNumeral_plain {x : Float} (h : x.isFinite) : IsNumeral (FloatText.plain x).toList :=
  fun _ hc => FloatText.mem_plain h hc

theorem IsNumeral.ne {cs : List Char} (h : IsNumeral cs) {d : Char}
    (hd : d.isDigit = false ∧ d ≠ '.' ∧ d ≠ '-') : ∀ c ∈ cs, c ≠ d := by
  rintro c hc rfl
  rcases h c hc with hdigit | hpoint | hsign
  · rw [hd.1] at hdigit
    cases hdigit
  · exact hd.2.1 hpoint
  · exact hd.2.2 hsign

theorem IsNumeral.trim_eq {cs : List Char} (h : IsNumeral cs) : Text.trim cs = cs := by
  have hblank : ∀ c ∈ cs, Text.isBlank c = false := by
    intro c hc
    rcases h c hc with hdigit | rfl | rfl
    · exact Text.ascii_cases (P := fun c => c.isDigit = true → Text.isBlank c = false) (by decide)
        (Text.toNat_lt_of_isDigit hdigit) hdigit
    · decide
    · decide
  rw [Text.trim_eq_self_iff]
  exact ⟨fun c hc => hblank c (List.mem_of_mem_head? hc),
    fun c hc => hblank c (List.mem_of_getLast? hc)⟩

theorem splitAtChar?_append {c : Char} {cs : List Char} (h : ∀ d ∈ cs, d ≠ c)
    (rest : List Char) : splitAtChar? c (cs ++ c :: rest) = some (cs, rest) := by
  have hcs : ∀ d ∈ cs, (d != c) = true := fun d hd => bne_iff_ne.2 (h d hd)
  have hdrop : (cs ++ c :: rest).dropWhile (· != c) = c :: rest := by
    rw [List.dropWhile_append_of_pos hcs, List.dropWhile_cons_of_neg (by simp)]
  have htake : (cs ++ c :: rest).takeWhile (· != c) = cs := by
    rw [List.takeWhile_append_of_pos hcs, List.takeWhile_cons_of_neg (by simp), List.append_nil]
  rw [splitAtChar?, hdrop, htake]

theorem afterStart?_append (start : String) (rest : List Char) :
    afterStart? start (start.toList ++ rest) = some rest := by
  have hstart : start.toList.isPrefixOf (start.toList ++ rest) = true := by simp
  rw [afterStart?, if_pos hstart, ← String.length_toList, List.drop_left]

/-- The coordinates as they stand between the parentheses. -/
def coordinates (p : Position) : List Char :=
  (FloatText.plain p.x).toList ++ ',' :: ' ' :: (FloatText.plain p.y).toList

theorem toList_renderPosition (p : Position) :
    (Script.renderPosition p).toList = '-' :: '-' :: (' ' :: ("Position:".toList ++
      ' ' :: ('(' :: coordinates p ++ [')'])) ++ ['\n']) := by
  have hfront : "-- Position: (".toList =
      '-' :: '-' :: ' ' :: ("Position:".toList ++ [' ', '(']) := by decide
  have hmiddle : ", ".toList = [',', ' '] := by decide
  have hback : ")\n".toList = [')', '\n'] := by decide
  unfold Script.renderPosition coordinates
  simp only [String.toList_append, hfront, hmiddle, hback, List.append_assoc, List.cons_append,
    List.nil_append]

theorem trim_noted (p : Position) :
    Text.trim (' ' :: ("Position:".toList ++ ' ' :: ('(' :: coordinates p ++ [')'])) ++ ['\n']) =
      "Position:".toList ++ ' ' :: ('(' :: coordinates p ++ [')']) := by
  have hbody : "Position:".toList ++ ' ' :: ('(' :: coordinates p ++ [')']) =
      'P' :: ("osition:".toList ++ ' ' :: '(' :: coordinates p) ++ [')'] := by
    have hword : "Position:".toList = 'P' :: "osition:".toList := by decide
    rw [hword, List.cons_append, List.cons_append, List.cons_append, List.append_assoc,
      List.cons_append, List.cons_append]
  rw [List.cons_append, Text.trim_cons_blank (by decide), hbody]
  exact Text.trim_append_blank (by decide) (Text.trim_delimited (by decide) (by decide) _)
    (List.cons_ne_nil _ _)

/-- The position that a comment notes is found in it. -/
theorem notedPosition?_renderPosition {p : Position} (hx : p.x.isFinite) (hy : p.y.isFinite) :
    notedPosition? (Script.renderPosition p) = some p := by
  have hxs := isNumeral_plain hx
  have hys := isNumeral_plain hy
  have hdashes : (Script.renderPosition p).toList.dropWhile (· == '-') =
      ' ' :: ("Position:".toList ++ ' ' :: ('(' :: coordinates p ++ [')'])) ++ ['\n'] := by
    rw [toList_renderPosition]
    rfl
  have hgroup : Text.trim (' ' :: ('(' :: coordinates p ++ [')'])) =
      "(".toList ++ (coordinates p ++ [')']) := by
    rw [Text.trim_cons_blank (by decide), Text.trim_delimited (by decide) (by decide)]
    rfl
  have hclose : splitAtChar? ')' (coordinates p ++ [')']) = some (coordinates p, []) := by
    refine splitAtChar?_append ?_ []
    intro c hc
    rcases List.mem_append.1 hc with hmem | hmem
    · exact hxs.ne (by decide) c hmem
    · simp only [List.mem_cons] at hmem
      rcases hmem with rfl | rfl | hmem
      · decide
      · decide
      · exact hys.ne (by decide) c hmem
  have hcomma := splitAtChar?_append (hxs.ne (d := ',') (by decide))
    (' ' :: (FloatText.plain p.y).toList)
  rw [notedPosition?, hdashes, trim_noted, afterStart?_append]
  simp only [Option.bind_eq_bind, Option.bind_some, hgroup, afterStart?_append, hclose]
  rw [coordinates, hcomma]
  simp only [Option.bind_some, Text.trim_cons_blank (c := ' ') (by decide), hxs.trim_eq, hys.trim_eq,
    FloatText.parse?_plain hx, FloatText.parse?_plain hy]
  rfl

namespace Lexer

theorem lineWidth_append {cs : List Char} (h : ∀ c ∈ cs, c ≠ '\n') (tail : List Char) :
    lineWidth (cs ++ '\n' :: tail) = cs.length + 1 := by
  induction cs with
  | nil => rfl
  | cons c cs ih =>
      rw [List.cons_append, lineWidth, if_neg (h c List.mem_cons_self),
        ih fun d hd => h d (List.mem_cons_of_mem _ hd), List.length_cons]

/-- A comment ends with its line. -/
theorem scan_comment {cs : List Char} (h : ∀ c ∈ cs, c ≠ '\n') (afterWord : Bool)
    (tail : List Char) :
    scan afterWord '-' ('-' :: cs ++ '\n' :: tail) = .ok (some .comment, cs.length + 2) := by
  have hscan : scan afterWord '-' ('-' :: cs ++ '\n' :: tail) =
      found .comment (lineWidth ('-' :: cs ++ '\n' :: tail)) := rfl
  rw [hscan, lineWidth_append, List.length_cons]
  · rfl
  · intro c hc
    rcases List.mem_cons.1 hc with rfl | hmem
    · decide
    · exact h c hmem

/-- The comment that notes a position is one token. -/
theorem reads_renderPosition {p : Position} (hx : p.x.isFinite) (hy : p.y.isFinite) :
    Reads Anything (Script.renderPosition p).toList fun ls =>
      ∃ l, ls = [l] ∧ l.token = .comment ∧ l.text = Script.renderPosition p := by
  have htext := toList_renderPosition p
  have hline : ∀ c ∈ ' ' :: ("Position:".toList ++ ' ' :: ('(' :: coordinates p ++ [')'])),
      c ≠ '\n' := by
    have hword : ∀ c ∈ "Position:".toList, c ≠ '\n' := fun c hc heq => by
      subst heq
      exact absurd hc (by decide)
    have hxs := (isNumeral_plain hx).ne (d := '\n') (by decide)
    have hys := (isNumeral_plain hy).ne (d := '\n') (by decide)
    intro c hc
    simp only [coordinates, List.mem_cons, List.mem_append, List.cons_append, List.not_mem_nil,
      or_false] at hc
    rcases hc with rfl | hmem | rfl | rfl | (hmem | rfl | rfl | hmem) | rfl
    · decide
    · exact hword c hmem
    · decide
    · decide
    · exact hxs c hmem
    · decide
    · decide
    · exact hys c hmem
    · decide
  have hread : Reads Anything (Script.renderPosition p).toList fun ls =>
      ∃ l, ls = [l] ∧ l.token = .comment ∧
        l.text = String.ofList (Script.renderPosition p).toList := by
    rw [htext]
    refine Reads.token fun tail _ afterWord => ?_
    have hscan := scan_comment hline afterWord tail
    simpa using hscan
  rwa [String.ofList_toList] at hread

end Lexer

end Ddl

end EntityRelation
