/-
What joining does to the steps of a path. A relative right side adds its steps behind those of the
left side, so it decides about the file name and the extension of the whole, and segments behind a
name stay as they are.
-/

import TexAtlas.Path
import TexAtlas.Proofs.Text

namespace TexAtlas

namespace Text

variable {α β : Type} {separates : β → Bool}

theorem cutAt_map (f : α → β) (items : List α) :
    cutAt separates (items.map f) =
      (cutAt (fun item => separates (f item)) items).map (List.map f) := by
  induction items with
  | nil => rfl
  | cons item items ih =>
      rw [List.map_cons, cutAt, cutAt, ih]
      cases separates (f item) with
      | true => rfl
      | false =>
          cases cutAt (fun item => separates (f item)) items with
          | nil => rfl
          | cons first others => rfl

theorem runs_map (f : α → β) (items : List α) :
    runs separates (items.map f) =
      (runs (fun item => separates (f item)) items).map (List.map f) := by
  rw [runs, runs, cutAt_map, List.filter_map]
  refine congrArg _ (List.filter_congr fun piece _ => ?_)
  cases piece <;> rfl

end Text

namespace Path

open Text (Glyph)

variable {left right path : Path} {before later : List Segment} {step : Segment}
  {chars name : List Char}

theorem isAbsolute_ofChars (chars : List Char) :
    (ofChars chars).isAbsolute = (chars.head? == some '/') := by
  cases chars with
  | nil => rfl
  | cons c chars =>
      rw [Bool.eq_iff_iff]
      simp [isAbsolute, ofChars, slash]

/-! ### Joined paths -/

theorem runs_append_slash (left right : List Glyph) :
    Text.runs (· == slash) (left ++ slash :: right) =
      Text.runs (· == slash) left ++ Text.runs (· == slash) right :=
  Text.runs_append_cons left (by simp) right

theorem steps_join (relative : right.isAbsolute = false) :
    (left.join right).steps = left.steps ++ right.steps := by
  rw [steps, steps, steps, ← List.map_append, join, relative]
  simp only [Bool.false_eq_true, if_false]
  split
  · rename_i closed
    rw [Bool.or_eq_true, List.isEmpty_iff, beq_iff_eq] at closed
    -- A separator at the end of the left side adds no step, as one in between adds none.
    have starts : ∀ glyph, left.glyphs.getLast? = some glyph → (glyph == slash) = true := by
      intro glyph isLast
      rcases closed with empty | last
      · rw [empty] at isLast
        cases isLast
      · rw [last] at isLast
        exact beq_iff_eq.mpr (Option.some.inj isLast).symm
    rw [Text.runs_append_of_starts starts]
  · rw [runs_append_slash]

/-- What a path puts between itself and a relative path depends on nothing but the path. -/
theorem exists_separator (left : Path) : ∃ separator : List Glyph,
    ∀ right : Path, right.isAbsolute = false →
      left.join right = ⟨left.glyphs ++ separator ++ right.glyphs⟩ := by
  by_cases closed : (left.glyphs.isEmpty || left.glyphs.getLast? == some slash) = true
  · refine ⟨[], fun right relative => ?_⟩
    rw [join, relative, if_neg Bool.false_ne_true, if_pos closed, List.append_nil]
  · refine ⟨[slash], fun right relative => ?_⟩
    rw [join, relative, if_neg Bool.false_ne_true, if_neg closed, List.append_assoc]
    rfl

/-- Joining in two turns is joining once, with a separator in between. -/
theorem join_ofChars_join (left : Path) (relative : chars.head? ≠ some '/')
    (opened : ∃ c, chars.getLast? = some c ∧ c ≠ '/') (nameRelative : name.head? ≠ some '/') :
    (left.join (ofChars chars)).join (ofChars name) =
      left.join (ofChars (chars ++ '/' :: name)) := by
  obtain ⟨c, isLast, notSlash⟩ := opened
  obtain ⟨start, rfl⟩ := List.getLast?_eq_some_iff.mp isLast
  have isRelative : ∀ text : List Char, text.head? ≠ some '/' →
      (ofChars text).isAbsolute = false := fun text other => by
    rw [isAbsolute_ofChars]
    exact beq_eq_false_iff_ne.mpr other
  have wholeRelative : (start ++ [c] ++ '/' :: name).head? ≠ some '/' := by
    cases start with
    | nil => exact relative
    | cons first start => exact relative
  obtain ⟨separator, joins⟩ := exists_separator left
  rw [joins _ (isRelative _ relative), joins _ (isRelative _ wholeRelative), join,
    isRelative name nameRelative, if_neg Bool.false_ne_true, if_neg]
  · simp [ofChars, slash]
  · simp [ofChars, slash, notSlash]

/-! ### Steps and segments -/

theorem steps_ofChars (chars : List Char) :
    (ofChars chars).steps =
      (Text.runs (· == '/') chars).map (fun run => Segment.ofGlyphs (run.map Glyph.char)) := by
  have sameSeparator : (fun c => Glyph.char c == slash) = (· == '/') := by
    funext c
    rw [Bool.eq_iff_iff]
    simp [slash]
  rw [steps, ofChars, Text.runs_map, sameSeparator, List.map_map]
  rfl

/-- Behind a step that counts, only the `.` steps do not count. -/
theorem exists_segments (isSteps : path.steps = before ++ step :: later) (counts : step ≠ .here) :
    ∃ front, path.segments = front ++ step :: later.filter (· != .here) := by
  have kept : (step :: later).filter (· != .here) = step :: later.filter (· != .here) :=
    List.filter_cons_of_pos (bne_iff_ne.mpr counts)
  unfold segments
  rw [isSteps]
  split
  · refine ⟨.root :: before.filter (· != .here), ?_⟩
    rw [List.filter_append, kept]
    rfl
  · cases before with
    | nil => exact ⟨[], rfl⟩
    | cons first before =>
        refine ⟨first :: before.filter (· != .here), ?_⟩
        change first :: (before ++ step :: later).filter (· != .here) = _
        rw [List.filter_append, kept]
        rfl

theorem fileName_of_steps {name : List Glyph} (before : List Segment)
    (isSteps : path.steps = before ++ [.named name]) : path.fileName = some name := by
  obtain ⟨front, whole⟩ := exists_segments isSteps nofun
  rw [List.filter_nil] at whole
  rw [fileName, whole, List.getLast?_concat]

/-! ### Names -/

/-- Names of files and directories as they stand in a path. -/
structure IsName (name : List Char) : Prop where
  present : name ≠ []
  noSlash : '/' ∉ name
  notHere : name ≠ ['.']
  notParent : name ≠ ['.', '.']

instance (name : List Char) : Decidable (IsName name) :=
  decidable_of_iff (name ≠ [] ∧ '/' ∉ name ∧ name ≠ ['.'] ∧ name ≠ ['.', '.'])
    ⟨fun ⟨present, noSlash, notHere, notParent⟩ => ⟨present, noSlash, notHere, notParent⟩,
      fun ⟨present, noSlash, notHere, notParent⟩ => ⟨present, noSlash, notHere, notParent⟩⟩

theorem segment_of_isName (isName : IsName name) :
    Segment.ofGlyphs (name.map Glyph.char) = .named (name.map Glyph.char) := by
  have apart : ∀ other : List Char, name ≠ other → name.map Glyph.char ≠ other.map Glyph.char :=
    fun _ different same => different ((List.map_inj_right fun _ _ => Glyph.char.inj).mp same)
  have notHere : name.map Glyph.char ≠ [dot] := apart ['.'] isName.notHere
  have notParent : name.map Glyph.char ≠ [dot, dot] := apart ['.', '.'] isName.notParent
  rw [Segment.ofGlyphs, if_neg notHere, if_neg notParent]

theorem runs_of_noSlash (present : name ≠ []) (noSlash : '/' ∉ name) :
    Text.runs (· == '/') name = [name] :=
  Text.runs_of_free present fun _ inside => beq_eq_false_iff_ne.mpr
    fun isSlash => noSlash (isSlash ▸ inside)

theorem isRelative_of_noSlash (noSlash : '/' ∉ name) : (ofChars name).isAbsolute = false := by
  rw [isAbsolute_ofChars]
  refine beq_eq_false_iff_ne.mpr fun isFirst => noSlash ?_
  exact List.mem_of_head? isFirst

theorem fileName_join_name (left : Path) (isName : IsName name) :
    (left.join (ofChars name)).fileName = some (name.map Glyph.char) := by
  apply fileName_of_steps left.steps
  rw [steps_join (isRelative_of_noSlash isName.noSlash), steps_ofChars,
    runs_of_noSlash isName.present isName.noSlash, List.map_singleton, segment_of_isName isName]

theorem fileName_ofChars (isName : IsName name) :
    (ofChars name).fileName = some (name.map Glyph.char) := by
  apply fileName_of_steps []
  rw [steps_ofChars, runs_of_noSlash isName.present isName.noSlash, List.map_singleton,
    segment_of_isName isName, List.nil_append]

/-- A name has its extension wherever it stands. -/
theorem extension_join_name (left : Path) (isName : IsName name) :
    (left.join (ofChars name)).extension = (ofChars name).extension := by
  rw [extension, extension, fileName_join_name left isName, fileName_ofChars isName]

end Path

end TexAtlas
