import EntityRelation.Proofs.Ddl.Cursor
import EntityRelation.Proofs.Ddl.Tidy

/-!
# One step of a cursor

The cursor stands where a suffix of the list starts (`Walk.place`). A walk reads what a reader of
clauses reads when it takes the cursor from the suffix that the reader gets to the one that it
leaves, without a fault (`Walk.Reads`). Walks that do so can be put one behind the other, and all
primitive ones do.
-/

namespace EntityRelation

namespace Ddl

namespace Walk

open Clause

variable {lexemes c rest mid : Clause} {l : Lexeme} {k : Keyword} {ks : List Keyword}

/-- The position where a suffix of a list starts. -/
def place (lexemes c : Clause) : Nat :=
  lexemes.length - c.length

theorem place_le (lexemes c : Clause) : place lexemes c ≤ lexemes.length :=
  Nat.sub_le _ _

@[simp] theorem place_nil (lexemes : Clause) : place lexemes [] = lexemes.length := rfl

@[simp] theorem place_self (lexemes : Clause) : place lexemes lexemes = 0 :=
  Nat.sub_self _

theorem place_append (h : c ++ rest <:+ lexemes) :
    place lexemes rest = place lexemes (c ++ rest) + c.length := by
  have hle := h.length_le
  rw [List.length_append] at hle
  rw [place, place, List.length_append]
  omega

theorem place_tail (h : l :: rest <:+ lexemes) :
    place lexemes rest = place lexemes (l :: rest) + 1 :=
  place_append (c := [l]) h

theorem getElem?_place (h : rest <:+ lexemes) (n : Nat) :
    lexemes[place lexemes rest + n]? = rest[n]? := by
  obtain ⟨front, rfl⟩ := h
  rw [place, List.length_append, Nat.add_sub_cancel,
    List.getElem?_append_right (Nat.le_add_right _ _), Nat.add_sub_cancel_left]

theorem getElem?_place_zero (h : c <:+ lexemes) : lexemes[place lexemes c]? = c.head? := by
  rw [← Nat.add_zero (place lexemes c), getElem?_place h, List.head?_eq_getElem?]

theorem place_drop {pos : Nat} (h : pos ≤ lexemes.length) :
    place lexemes (lexemes.drop pos) = pos := by
  rw [place, List.length_drop]
  omega

/-- The slice from one suffix to another is what stands between them. -/
theorem slice_place (h : c ++ rest <:+ lexemes) :
    slice lexemes (place lexemes (c ++ rest)) (place lexemes rest) = .ok c := by
  have hplace := place_append h
  rw [slice, if_pos ⟨by omega, place_le _ _⟩, hplace]
  obtain ⟨front, rfl⟩ := h
  have hfront : place (front ++ (c ++ rest)) (c ++ rest) = front.length := by
    rw [place, List.length_append, Nat.add_sub_cancel]
  rw [hfront, List.extract_eq_take_drop, List.drop_left, Nat.add_sub_cancel_left, List.take_left]

theorem slice_place_length (hc : c <:+ lexemes) :
    slice lexemes (place lexemes c) lexemes.length = .ok c := by
  rw [← List.append_nil c] at hc
  simpa using slice_place hc

/-! ## Walks that read -/

/-- From the place of the suffix `c`, a walk gives `a` and comes to the place of the suffix
`rest`. -/
def Reads {α : Type} (lexemes : Clause) (walk : Walk α) (c : Clause) (a : α) (rest : Clause) :
    Prop :=
  c <:+ lexemes → walk.run (place lexemes c) = .ok (a, place lexemes rest) ∧ rest <:+ lexemes

namespace Reads

variable {α β : Type} {walk : Walk α} {a : α} {b : β}

theorem pure (a : α) : Reads lexemes (Pure.pure a : Walk α) c a c :=
  fun hc => ⟨rfl, hc⟩

theorem bind {next : α → Walk β} (h : Reads lexemes walk c a mid)
    (hnext : Reads lexemes (next a) mid b rest) : Reads lexemes (walk >>= next) c b rest := by
  intro hc
  obtain ⟨hrun, hmid⟩ := h hc
  obtain ⟨hrun', hrest⟩ := hnext hmid
  refine ⟨?_, hrest⟩
  rw [StateT.run_bind, hrun]
  exact hrun'

theorem map (h : Reads lexemes walk c a rest) (f : α → β) :
    Reads lexemes (f <$> walk) c (f a) rest := by
  intro hc
  obtain ⟨hrun, hrest⟩ := h hc
  refine ⟨?_, hrest⟩
  rw [StateT.run_map, hrun]
  rfl

theorem discard (h : Reads lexemes walk c a rest) :
    Reads lexemes (Functor.discard walk) c () rest :=
  h.map fun _ => ()

theorem get : Reads lexemes MonadState.get c (place lexemes c) c :=
  fun hc => ⟨rfl, hc⟩

/-- What needs no cursor leaves it where it is. -/
theorem lift {x : Except Fault α} (h : c <:+ lexemes → x = .ok a) :
    Reads lexemes (liftM x : Walk α) c a c := by
  intro hc
  rw [h hc]
  exact ⟨rfl, hc⟩

theorem moveTo {pos : Nat} (h : c <:+ lexemes → pos = place lexemes rest ∧ rest <:+ lexemes) :
    Reads lexemes (Walk.moveTo lexemes pos) c () rest := by
  intro hc
  obtain ⟨rfl, hrest⟩ := h hc
  rw [Walk.moveTo, if_pos (place_le _ _)]
  exact ⟨rfl, hrest⟩

/-- Walks that all come back to where they started do so one after the other. -/
theorem foldlM {step : β → α → Walk β} {f : β → α → β}
    (h : ∀ b a, Reads lexemes (step b a) c (f b a) c) (items : List α) (b : β) :
    Reads lexemes (items.foldlM step b) c (items.foldl f b) c := by
  induction items generalizing b with
  | nil => exact Reads.pure b
  | cons a items ih =>
      rw [List.foldlM_cons]
      exact (h b a).bind (ih (f b a))

end Reads

/-! ## Words -/

theorem reads_sees (test : Lexeme → Bool) :
    Reads lexemes (sees lexemes test) c (c.head?.any test) c := by
  intro hc
  rw [← getElem?_place_zero hc]
  exact ⟨rfl, hc⟩

theorem reads_next : Reads lexemes (next lexemes) c c.head? (c.drop 1) := by
  refine Reads.bind Reads.get fun hc => ?_
  rw [getElem?_place_zero hc]
  cases c with
  | nil => exact Reads.pure none hc
  | cons l rest =>
      refine Reads.bind (Reads.moveTo fun hc => ⟨?_, ?_⟩) (Reads.pure (some l)) hc
      · exact (place_tail hc).symm
      · exact (List.suffix_cons l rest).trans hc

/-- Move behind the lexeme that the clause starts with. -/
theorem reads_step {pos : Nat}
    (hpos : l :: rest <:+ lexemes → pos = place lexemes (l :: rest) + 1) :
    Reads lexemes (moveTo lexemes pos) (l :: rest) () rest :=
  Reads.moveTo fun hc =>
    ⟨(hpos hc).trans (place_tail hc).symm, (List.suffix_cons l rest).trans hc⟩

theorem reads_eat_of_true {test : Lexeme → Bool} (h : test l = true) :
    Reads lexemes (eat lexemes test) (l :: rest) true rest := by
  have hsees : Reads lexemes (sees lexemes test) (l :: rest) true (l :: rest) := h ▸ reads_sees test
  exact hsees.bind (Reads.get.bind ((reads_step fun _ => rfl).bind (Reads.pure true)))

theorem reads_eat_of_false {test : Lexeme → Bool} (h : c.head?.any test = false) :
    Reads lexemes (eat lexemes test) c false c := by
  have hsees : Reads lexemes (sees lexemes test) c false c := h ▸ reads_sees test
  exact hsees.bind (Reads.pure false)

/-- A walk that moves behind keywords, and says whether they are there. -/
def ReadsWords (lexemes : Clause) (walk : Walk Bool) (ks : List Keyword) : Prop :=
  ∀ c, Reads lexemes walk c (c.after? ks).isSome (c.skip ks)

namespace ReadsWords

variable {walk : Walk Bool}

theorem of_some (h : ReadsWords lexemes walk ks) (hafter : c.after? ks = some rest) :
    Reads lexemes walk c true rest := by
  have hreads := h c
  rwa [Clause.skip, hafter] at hreads

theorem of_none (h : ReadsWords lexemes walk ks) (hafter : c.after? ks = none) :
    Reads lexemes walk c false c := by
  have hreads := h c
  rwa [Clause.skip, hafter] at hreads

end ReadsWords

theorem isSome_after? (k : Keyword) (c : Clause) : (c.after? [k]).isSome = c.startsWith k := by
  cases c with
  | nil => rfl
  | cons l rest =>
      rw [after?, after?, startsWith]
      cases l.isKeyword k with
      | false => rfl
      | true => rfl

theorem reads_eatKeyword (k : Keyword) : ReadsWords lexemes (eatKeyword lexemes k) [k] := by
  intro c
  rw [Clause.skip]
  cases c with
  | nil => exact reads_eat_of_false rfl
  | cons l rest =>
      by_cases h : l.isKeyword k = true
      · rw [after?, if_pos h]
        exact reads_eat_of_true h
      · rw [after?, if_neg h]
        exact reads_eat_of_false (Bool.eq_false_iff.2 h)

/-- A run of keywords that is tested one by one, each where it should stand. -/
theorem all_zipIdx_eq (ks : List Keyword) (clause : Clause) (n : Nat) :
    (ks.zipIdx n).all (fun (k, i) => clause[i]?.any (·.isKeyword k)) =
      (after? ks (clause.drop n)).isSome := by
  induction ks generalizing n with
  | nil => rfl
  | cons k ks ih =>
      rw [List.zipIdx_cons, List.all_cons, ih, ← List.tail_drop]
      dsimp only
      rw [← List.head?_drop]
      cases clause.drop n with
      | nil => rfl
      | cons l rest =>
          by_cases h : l.isKeyword k = true
          · simp [after?, h]
          · simp [after?, h]

theorem exists_of_after? (h : c.after? ks = some rest) :
    ∃ words, c = words ++ rest ∧ words.length = ks.length := by
  induction ks generalizing c with
  | nil => exact ⟨[], Option.some.inj h, rfl⟩
  | cons k ks ih =>
      cases c with
      | nil => cases h
      | cons l c =>
          rw [after?] at h
          split at h
          · obtain ⟨words, rfl, hlength⟩ := ih h
            exact ⟨l :: words, rfl, congrArg (· + 1) hlength⟩
          · cases h

theorem reads_eatKeywords (ks : List Keyword) :
    ReadsWords lexemes (eatKeywords lexemes ks) ks := by
  intro c
  refine Reads.get.bind fun hc => ?_
  have htest : ks.zipIdx.all (fun (k, i) => lexemes[place lexemes c + i]?.any (·.isKeyword k)) =
      (c.after? ks).isSome := by
    rw [← List.drop_zero (l := c), ← all_zipIdx_eq]
    simp only [getElem?_place hc, List.drop_zero]
  rw [htest, Clause.skip]
  cases hafter : c.after? ks with
  | none => exact Reads.pure false hc
  | some rest =>
      obtain ⟨words, rfl, hlength⟩ := exists_of_after? hafter
      refine Reads.bind (Reads.moveTo fun hc => ⟨?_, ?_⟩) (Reads.pure true) hc
      · rw [Option.getD_some, place_append hc, hlength]
      · exact (List.suffix_append words rest).trans hc

theorem reads_eatAny (ks : List Keyword) :
    Reads lexemes (eatAny lexemes ks) c (c.startsWithAny ks) (c.skipAny ks) := by
  induction ks with
  | nil =>
      have hskip : c.skipAny [] = c := by
        cases c with
        | nil => rfl
        | cons l rest => rfl
      rw [hskip]
      exact Reads.pure false
  | cons k ks ih =>
      cases c with
      | nil => exact ((reads_eatKeyword k).of_none rfl).bind ih
      | cons l rest =>
          by_cases h : l.isKeyword k = true
          · have hafter : after? [k] (l :: rest) = some rest := by rw [after?, if_pos h, after?]
            have hany : startsWithAny (k :: ks) (l :: rest) = true := by
              simp [startsWithAny, startsWith, h]
            have hskip : skipAny (k :: ks) (l :: rest) = rest := by
              simp [skipAny, Lexeme.isAny, h]
            rw [hany, hskip]
            exact ((reads_eatKeyword k).of_some hafter).bind (Reads.pure true)
          · have hafter : after? [k] (l :: rest) = none := by rw [after?, if_neg h]
            have hany : startsWithAny (k :: ks) (l :: rest) = startsWithAny ks (l :: rest) := by
              simp [startsWithAny, startsWith, h]
            have hskip : skipAny (k :: ks) (l :: rest) = skipAny ks (l :: rest) := by
              simp [skipAny, Lexeme.isAny, h]
            rw [hany, hskip]
            exact ((reads_eatKeyword k).of_none hafter).bind ih

theorem reads_eatAny_cons (ks : List Keyword) : Reads lexemes (eatAny lexemes ks) (l :: rest)
    (l.isAny ks) (if l.isAny ks then rest else l :: rest) :=
  reads_eatAny ks

theorem reads_eatAll (ks : List Keyword) :
    Reads lexemes (eatAll lexemes ks) c () (c.skipAll ks) := by
  induction c with
  | nil =>
      intro hc
      have hany := reads_eatAny ks hc
      have hstarts : startsWithAny ks [] = false :=
        List.any_eq_false.2 fun _ _ => Bool.false_ne_true
      rw [hstarts] at hany
      refine ⟨?_, hc⟩
      rw [StateT.run, eatAll, hany.1]
      rfl
  | cons l rest ih =>
      intro hc
      obtain ⟨hany, -⟩ := reads_eatAny_cons ks hc
      rw [StateT.run, eatAll, hany]
      by_cases h : l.isAny ks = true
      · have hskip : skipAll ks (l :: rest) = skipAll ks rest := List.dropWhile_cons_of_pos h
        have htail := place_tail hc
        obtain ⟨hrun, hrest⟩ := ih ((List.suffix_cons l rest).trans hc)
        rw [h, hskip, if_pos rfl]
        refine ⟨?_, hrest⟩
        change (if place lexemes (l :: rest) < place lexemes rest ∧
          place lexemes rest ≤ lexemes.length then eatAll lexemes ks (place lexemes rest)
          else throw .stalled) = _
        rw [if_pos ⟨by omega, place_le _ _⟩]
        exact hrun
      · have hskip : skipAll ks (l :: rest) = l :: rest := List.dropWhile_cons_of_neg h
        rw [Bool.eq_false_iff.2 h, hskip, if_neg Bool.false_ne_true]
        exact ⟨rfl, hc⟩

theorem reads_qualifiedFrom (name : String) :
    Reads lexemes (qualifiedFrom lexemes name) c (c.qualifiedFrom name).1
      (c.qualifiedFrom name).2 := by
  fun_induction Clause.qualifiedFrom name c with
  | case1 name point part rest hpoint next hname ih =>
      intro hc
      have hrest : rest <:+ lexemes := by
        exact ((List.suffix_cons part rest).trans (List.suffix_cons point _)).trans hc
      have htwo : place lexemes (point :: part :: rest) + 2 = place lexemes rest :=
        (place_append (c := [point, part]) hc).symm
      have hreads := ih hrest
      rw [StateT.run] at hreads ⊢
      rw [qualifiedFrom, getElem?_place_zero hc, getElem?_place hc, htwo,
        if_pos (by simpa using hpoint)]
      simp only [List.getElem?_cons_succ, List.getElem?_cons_zero, Option.bind_some, hname]
      rwa [if_pos (place_le _ _)]
  | case2 name point part rest hpoint hname =>
      intro hc
      refine ⟨?_, hc⟩
      rw [StateT.run, qualifiedFrom, getElem?_place_zero hc, getElem?_place hc,
        if_pos (by simpa using hpoint)]
      simp only [List.getElem?_cons_succ, List.getElem?_cons_zero, Option.bind_some, hname]
      rfl
  | case3 name point part rest hpoint =>
      intro hc
      refine ⟨?_, hc⟩
      rw [StateT.run, qualifiedFrom, getElem?_place_zero hc, if_neg (by simpa using hpoint)]
      rfl
  | case4 name short hshort =>
      intro hc
      refine ⟨?_, hc⟩
      have hnone : short[1]? = none := by
        rcases short with - | ⟨point, - | ⟨part, rest⟩⟩
        · rfl
        · rfl
        · exact absurd rfl (hshort point part rest)
      rw [StateT.run, qualifiedFrom, getElem?_place hc, hnone]
      exact ite_self _

theorem reads_tableName : Reads lexemes (tableName lexemes) c (c.tableName?.map (·.1))
    ((c.tableName?.map (·.2)).getD c) := by
  refine Reads.get.bind fun hc => ?_
  rw [getElem?_place_zero hc]
  cases c with
  | nil => exact Reads.pure none hc
  | cons l rest =>
      rw [List.head?_cons, Option.bind_some, tableName?]
      cases l.name? with
      | none => exact Reads.pure none hc
      | some name =>
          refine Reads.bind (reads_step fun _ => rfl) ?_ hc
          exact (reads_qualifiedFrom name).bind (Reads.pure (some _))

theorem reads_remaining : Reads lexemes (remaining lexemes) c c c := by
  refine Reads.get.bind (Reads.lift fun hc => ?_)
  rw [Nat.min_eq_left (place_le _ _)]
  exact slice_place_length hc

/-! ## Groups -/

theorem map_cons_length (l : Lexeme) (pos : Nat) (group? : Option (Clause × Clause)) :
    ((group?.map fun (inner, rest) => (l :: inner, rest)).map fun group =>
      pos + group.1.length) = group?.map fun group => pos + 1 + group.1.length := by
  rw [Option.map_map]
  refine Option.map_congr fun group _ => ?_
  simp only [Function.comp_apply, List.length_cons]
  omega

/-- The end of a group is found at the position of its closing parenthesis. -/
theorem closingFrom_eq (depth pos : Nat) (c : Clause) : closingFrom (depth + 1) pos c =
    .ok ((closeGroup? depth c).map fun group => pos + group.1.length) := by
  induction c generalizing depth pos with
  | nil => rfl
  | cons l rest ih =>
      rcases token_cases l with hleft | hright | hother
      · rw [closingFrom, if_pos hleft, ih, closeGroup?_left hleft, map_cons_length]
      · rw [closingFrom, if_neg (by simp [hright]), if_pos hright]
        cases depth with
        | zero => rw [closeGroup?_right_zero hright]; rfl
        | succ depth =>
            rw [closeGroup?_right_succ hright, map_cons_length]
            exact ih depth (pos + 1)
      · rw [closingFrom, if_neg hother.1, if_neg hother.2, ih, closeGroup?_other hother,
          map_cons_length]

theorem drop_place (hc : c <:+ lexemes) : lexemes.drop (place lexemes c) = c := by
  obtain ⟨front, rfl⟩ := hc
  rw [place, List.length_append, Nat.add_sub_cancel, List.drop_left]

theorem matchingParen_place (hc : l :: rest <:+ lexemes) (hl : l.token = .leftParen) :
    matchingParen lexemes (place lexemes (l :: rest)) =
      .ok ((closeGroup? 0 rest).map fun group => place lexemes rest + group.1.length) := by
  rw [matchingParen, drop_place hc, closingFrom, if_pos hl, closingFrom_eq, place_tail hc]

theorem reads_group : Reads lexemes (group lexemes) c (c.group?.map (·.1)) c.skipGroup := by
  refine Reads.bind (reads_sees _) ?_
  cases c with
  | nil => exact Reads.pure none
  | cons l rest =>
      by_cases hl : l.token = .leftParen
      · rw [if_pos (by simpa using hl), skipGroup, group?, if_pos hl]
        refine Reads.get.bind fun hc => ?_
        refine (Reads.bind (Reads.lift fun hc => matchingParen_place hc hl) ?_) hc
        have htail := place_tail hc
        cases hclose : closeGroup? 0 rest with
        | none =>
            refine Reads.bind (Reads.moveTo fun _ => ⟨?_, List.nil_suffix⟩)
              (Reads.bind (Reads.lift fun _ => ?_) (Reads.pure (some rest)))
            · exact Nat.min_eq_right (Nat.le_succ _)
            · rw [← htail, Option.map_none, Option.getD_none, Nat.max_eq_left (place_le _ _)]
              exact slice_place_length ((List.suffix_cons l rest).trans hc)
        | some pair =>
            obtain ⟨inner, after⟩ := pair
            obtain ⟨-, right, -, rfl⟩ := eq_append_of_closeGroup? hclose
            have hinner : inner ++ right :: after <:+ lexemes := (List.suffix_cons l _).trans hc
            have hright : right :: after <:+ lexemes := (List.suffix_append _ _).trans hinner
            have hlater := place_append hinner
            refine Reads.bind (Reads.moveTo fun _ => ⟨?_, (List.suffix_cons right _).trans hright⟩)
              (Reads.bind (Reads.lift fun _ => ?_) (Reads.pure (some inner)))
            · rw [Option.map_some, Option.getD_some, ← hlater, ← place_tail hright,
                Nat.min_eq_left (place_le _ _)]
            · rw [Option.map_some, Option.getD_some, ← htail,
                Nat.max_eq_left (Nat.le_add_right _ _), ← hlater]
              exact slice_place hinner
      · rw [if_neg (by simpa using hl), skipGroup, group?, if_neg hl]
        exact Reads.pure none

/-! ## Runs and parts -/

theorem isModifier_place (hc : c <:+ lexemes) :
    isModifier lexemes (place lexemes c) = c.startsModifier := by
  rw [isModifier, getElem?_place_zero hc, getElem?_place hc]
  rcases c with - | ⟨l, - | ⟨m, rest⟩⟩
  · rfl
  · rfl
  · rfl

theorem runEnd_nil (lexemes : Clause) (first : Option Nat) (depth : Nat) :
    runEnd lexemes first depth lexemes.length = lexemes.length := by
  rw [runEnd]
  split
  · rfl
  · next hl => simp at hl

theorem runEnd_cons (hc : l :: rest <:+ lexemes) (first : Option Nat) (depth : Nat) :
    runEnd lexemes first depth (place lexemes (l :: rest)) =
      if l.token = .leftParen then runEnd lexemes first (depth + 1) (place lexemes rest)
      else if l.token = .rightParen then runEnd lexemes first (depth - 1) (place lexemes rest)
      else if depth = 0 ∧ first ≠ some (place lexemes (l :: rest)) ∧
          startsModifier (l :: rest) = true then place lexemes (l :: rest)
      else runEnd lexemes first depth (place lexemes rest) := by
  rw [runEnd]
  split
  · next hnone => simp [getElem?_place_zero hc] at hnone
  · next l' hl =>
    obtain rfl : l = l' := by simpa [getElem?_place_zero hc] using hl
    rw [← place_tail hc, isModifier_place hc]

theorem runEnd_place (hc : c <:+ lexemes) (first : Option Nat)
    (hfirst : ∀ pos ∈ first, pos < place lexemes c) (depth : Nat) :
    runEnd lexemes first depth (place lexemes c) = place lexemes (run depth c).2 := by
  induction c generalizing depth with
  | nil => exact runEnd_nil lexemes first depth
  | cons l rest ih =>
      have hrest := ih ((List.suffix_cons l rest).trans hc) fun pos hpos =>
        Nat.lt_of_lt_of_le (hfirst pos hpos) (by rw [place_tail hc]; exact Nat.le_succ _)
      rw [runEnd_cons hc]
      rcases token_cases l with hleft | hright | hother
      · rw [if_pos hleft, run_left hleft, hrest]
      · rw [if_neg (by simp [hright]), if_pos hright, run_right hright, hrest]
      · rw [if_neg hother.1, if_neg hother.2]
        by_cases hmodifier : depth = 0 ∧ startsModifier (l :: rest) = true
        · have hne : first ≠ some (place lexemes (l :: rest)) := fun h =>
            Nat.lt_irrefl _ (hfirst _ h)
          obtain ⟨rfl, hstarts⟩ := hmodifier
          rw [if_pos ⟨rfl, hne, hstarts⟩, run_modifier hother hstarts]
        · rw [if_neg fun h => hmodifier ⟨h.1, h.2.2⟩, hrest, run_other hother]
          exact fun hzero => Bool.eq_false_iff.2 fun hstarts => hmodifier ⟨hzero, hstarts⟩

/-- A default value takes its first lexeme, even one that starts a modifier. -/
theorem runEnd_default (hc : c <:+ lexemes) :
    runEnd lexemes (some (place lexemes c)) 0 (place lexemes c) =
      place lexemes (defaultRun c).2 := by
  cases c with
  | nil => exact runEnd_nil lexemes _ 0
  | cons l rest =>
      have hrest := runEnd_place ((List.suffix_cons l rest).trans hc)
        (some (place lexemes (l :: rest))) fun pos hpos => by
          rw [place_tail hc, ← Option.some.inj hpos]
          exact Nat.lt_succ_self _
      rw [runEnd_cons hc, defaultRun]
      rcases token_cases l with hleft | hright | hother
      · rw [if_pos hleft, if_pos hleft, hrest]
        rfl
      · rw [if_neg (by simp [hright]), if_pos hright, hrest, if_neg (by simp [hright])]
        rfl
      · rw [if_neg hother.1, if_neg hother.2, if_neg fun h => h.2.1 rfl, hrest, if_neg hother.1]
        rfl

theorem partsFrom_place (before : Clause) (hc : before.reverse ++ c <:+ lexemes) (depth : Nat) :
    partsFrom lexemes depth (place lexemes (before.reverse ++ c)) (place lexemes c) c =
      .ok (splitFrom before depth c) := by
  induction c generalizing before depth with
  | nil =>
      have hslice := slice_place hc
      rw [place_nil] at hslice
      rw [partsFrom, hslice]
      rfl
  | cons l rest ih =>
      have hrest : l :: rest <:+ lexemes := (List.suffix_append _ _).trans hc
      have htail := place_tail hrest
      have hmove : before.reverse ++ l :: rest = (l :: before).reverse ++ rest := by simp
      have hnext := ih (l :: before) (hmove ▸ hc)
      rw [← hmove] at hnext
      rw [partsFrom, ← htail]
      rcases token_cases l with hleft | hright | hother
      · rw [if_pos hleft, hnext, splitFrom_left hleft]
      · rw [if_neg (by simp [hright]), if_pos hright, hnext, splitFrom_right hright]
      · rw [if_neg hother.1, if_neg hother.2]
        by_cases hcomma : l.token = .comma ∧ depth = 0
        · have hcut := ih [] ((List.suffix_cons l rest).trans hrest) 0
          obtain ⟨htoken, rfl⟩ := hcomma
          rw [if_pos ⟨htoken, rfl⟩, slice_place hc, splitFrom_comma htoken]
          rw [List.reverse_nil, List.nil_append] at hcut
          rw [hcut]
          rfl
        · rw [if_neg hcomma, hnext, splitFrom_other hother]
          exact fun hzero htoken => hcomma ⟨htoken, hzero⟩

theorem splitTopLevel_eq (c : Clause) : Walk.splitTopLevel c = .ok c.splitTopLevel := by
  have hparts := partsFrom_place [] (List.suffix_refl c) 0
  rw [List.reverse_nil, List.nil_append, place_self] at hparts
  rw [Walk.splitTopLevel, hparts]
  rfl

theorem columnNames_eq (c : Clause) : Walk.columnNames c = .ok c.columnNames := by
  rw [Walk.columnNames, splitTopLevel_eq]
  rfl

theorem reads_columnGroup : Reads lexemes (Walk.columnGroup lexemes) c
    (TableConstraint.columnGroup c).1 (TableConstraint.columnGroup c).2 := by
  refine reads_group.bind ?_
  rw [TableConstraint.columnGroup, skipGroup]
  cases c.group? with
  | none => exact Reads.pure []
  | some pair => exact Reads.lift fun _ => columnNames_eq pair.1

end Walk

end Ddl

end EntityRelation
