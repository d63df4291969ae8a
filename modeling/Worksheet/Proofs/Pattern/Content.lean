import Worksheet.Proofs.Pattern.Class
import Worksheet.Proofs.Pattern.Group

/- Worksheet Steady Content — the inside of a group.

   One step reads a part, a branch or a repetition and leaves the rest to a reader that is
   given to it; if that reader is steady so is the step (`contentStep_steady`). The content of
   a group takes step after step, so it is steady on every text that its reserve of steps is
   enough for (`inside_steady`). More steps than are needed make no difference
   (`inside_extends`), and where a content does not end with the text it ends at a
   parenthesis (`inside_stops`). -/
namespace Worksheet.PatternTree

open Reader

/-- What reads the content of a group, given whether blanks are ignored, the names of groups,
and the branches and parts that have been read. -/
abbrev ContentReader :=
  Bool → List String → List PatternTree → List PatternTree → Reader (PatternTree × List String)

/-- The content of a group with the names of groups so far, in so many steps. -/
def inside (fuel : Nat) : ContentReader := fun blanks names branches parts cs =>
  (content fuel blanks names branches parts cs).map fun (t, names, rest) => ((t, names), rest)

/-! ## Steps -/

section

variable (inner : ContentReader) (blanks : Bool) (names : List String)
  (branches parts : List PatternTree)

/-- What an opening parenthesis starts, up to its closing one. -/
def grouped : Opening → Reader (PatternTree × List String)
  | .flags change =>
    inner ((change.state? .ignoreBlanks).getD blanks) names branches (.flags change :: parts)
  | .group change name =>
    if name.any names.contains then fail
    else
      Reader.bind
        (inner ((change.state? .ignoreBlanks).getD blanks) (name.toList ++ names) [] []) fun r =>
          next fun c =>
            if c = ')' then inner blanks r.2 branches (.group change r.1 :: parts) else fail

/-- The last part repeated. -/
def repeated (least : Nat) (most : Option Nat) : Reader (PatternTree × List String) :=
  given (repeatLast least most parts) fun parts => lazily (inner blanks names branches parts)

/-- What a character is that stands for itself or for a place. -/
def single (c : Char) : PatternTree :=
  if c = '.' then .dot
  else if c = '^' then .anchor .lineStart
  else if c = '$' then .anchor .lineEnd
  else .literal ⟨c, false⟩

/-- How the content of a group goes on after a character that does not end it. -/
def proceed (c : Char) : Reader (PatternTree × List String) :=
  if c = '|' then inner blanks names (ofParts parts.reverse :: branches) []
  else if c = '(' then Reader.bind (openGroup blanks) (grouped inner blanks names branches parts)
  else if c = '[' then
    Reader.bind (bracketed blanks) fun t => inner blanks names branches (t :: parts)
  else if c = '?' then repeated inner blanks names branches parts 0 (some 1)
  else if c = '*' then repeated inner blanks names branches parts 0 none
  else if c = '+' then repeated inner blanks names branches parts 1 none
  else if c = '\x7b' then
    Reader.bind (counts blanks) fun r => repeated inner blanks names branches parts r.1 r.2
  else if c = '\\' then
    Reader.bind (escape blanks) fun t => inner blanks names branches (t :: parts)
  else inner blanks names branches (single c :: parts)

/-- One step of the content of a group. A parenthesis is left for the group that it ends. -/
def contentStep : Reader (PatternTree × List String)
  | [] => some ((finish branches parts, names), [])
  | c :: rest =>
    if c = ')' then some ((finish branches parts, names), c :: rest)
    else proceed inner blanks names branches parts c rest

end

theorem inside_succ (fuel : Nat) (blanks : Bool) (names : List String)
    (branches parts : List PatternTree) :
    inside (fuel + 1) blanks names branches parts =
      Reader.after blanks (contentStep (inside fuel) blanks names branches parts) := by
  funext cs
  rw [inside, content, Reader.after]
  generalize skip blanks cs = cs
  dsimp only
  split
  · rfl
  · rfl
  · rfl
  · refine Option.map_bind.trans (congrArg _ (funext fun r => ?_))
    obtain ⟨opening, rest⟩ := r
    cases opening with
    | flags change => rfl
    | group change name =>
      dsimp only [Function.comp]
      rw [grouped]
      split_ifs with hname
      · rw [hname]
        rfl
      · rw [Bool.not_eq_true _ |>.mp hname, Reader.bind, inside]
        dsimp only
        cases content fuel ((change.state? .ignoreBlanks).getD blanks) (name.toList ++ names) [] []
            rest with
        | none => rfl
        | some r =>
          obtain ⟨t, names', _ | ⟨c, left⟩⟩ := r
          · rfl
          · by_cases hc : c = ')'
            · rw [hc]
              rfl
            · have hnone : ∀ x : Reader (PatternTree × List String),
                  next (fun c => if c = ')' then x else fail) (c :: left) = none := by
                intro x
                rw [next, if_neg hc]
                rfl
              refine Eq.trans ?_ (hnone _).symm
              rw [show (guard ((!false) = true) : Option Unit) = some () from rfl]
              simp only [Option.bind_eq_bind, Option.bind_some]
              split
              · rename_i heq
                exact absurd (List.cons.inj heq).1 hc
              · rfl
  · exact Option.map_bind
  · exact Option.map_bind
  · exact Option.map_bind
  · exact Option.map_bind
  · exact Option.map_bind.trans (congrArg _ (funext fun r => Option.map_bind))
  · exact Option.map_bind
  · rfl
  · rfl
  · rfl
  · rename_i c rest hclose hbar hopen hbracket hquestion hstar hplus hbrace hslash hdot hcaret
      hdollar
    have hproceed : contentStep (inside fuel) blanks names branches parts (c :: rest) =
        proceed (inside fuel) blanks names branches parts c rest := if_neg hclose
    rw [hproceed, proceed, if_neg hbar, if_neg hopen, if_neg hbracket, if_neg hquestion,
      if_neg hstar, if_neg hplus, if_neg hbrace, if_neg hslash, single, if_neg hdot,
      if_neg hcaret, if_neg hdollar]
    rfl

/-! ## Steadiness -/

theorem forall_mem_cons_proper {t : PatternTree} {ts : List PatternTree} (h : t.Proper)
    (hts : ∀ t ∈ ts, t.Proper) : ∀ u ∈ t :: ts, u.Proper :=
  List.forall_mem_cons.mpr ⟨h, hts⟩

theorem single_proper (c : Char) : (single c).Proper := by
  rw [single]
  split_ifs <;> exact trivial

theorem finish_proper {branches parts : List PatternTree} (hbranches : ∀ t ∈ branches, t.Proper)
    (hparts : ∀ t ∈ parts, t.Proper) : (finish branches parts).Proper := by
  have hlast : (ofParts parts.reverse).Proper :=
    ofParts_proper fun t ht => hparts t (List.mem_reverse.mp ht)
  exact ofBranches_proper fun t ht =>
    forall_mem_cons_proper hlast hbranches t (List.mem_reverse.mp ht)

theorem repeatLast_proper {least : Nat} {most : Option Nat} {parts parts' : List PatternTree}
    (hcounts : ∀ m, most = some m → least ≤ m) (hparts : ∀ t ∈ parts, t.Proper)
    (h : repeatLast least most parts = some parts') : ∀ t ∈ parts', t.Proper := by
  unfold repeatLast at h
  split at h
  · exact nomatch h
  · exact nomatch h
  · obtain ⟨hpart, hparts⟩ := List.forall_mem_cons.mp hparts
    cases h
    exact forall_mem_cons_proper ⟨hpart, hcounts⟩ hparts

section

variable {dead : List Char → Prop} {n : Nat} {inner inner' : ContentReader}
  {branches parts : List PatternTree}

/-- The tree of a content is proper. -/
def ProperContent (r : PatternTree × List String) : Prop := r.1.Proper

/-- Readers of contents that are steady where what has been read is proper. -/
def SteadyContent (dead : List Char → Prop) (n : Nat) (inner inner' : ContentReader) : Prop :=
  ∀ blanks names branches parts, (∀ t ∈ branches, t.Proper) → (∀ t ∈ parts, t.Proper) →
    Steady dead n ProperContent (inner blanks names branches parts)
      (inner' blanks names branches parts)

theorem grouped_steady (hspent : Spent dead) (h : SteadyContent dead n inner inner')
    (blanks : Bool) (names : List String) (hbranches : ∀ t ∈ branches, t.Proper)
    (hparts : ∀ t ∈ parts, t.Proper) (opening : Opening) :
    Steady dead n ProperContent (grouped inner blanks names branches parts opening)
      (grouped inner' blanks names branches parts opening) := by
  cases opening with
  | flags change => exact h _ _ _ _ hbranches (forall_mem_cons_proper trivial hparts)
  | group change name =>
    have hnil : ∀ t ∈ ([] : List PatternTree), t.Proper := fun _ h => nomatch h
    refine .ite .fail (.bind hspent (h _ _ _ _ hnil hnil) fun r hr => ?_)
    have hrest := h blanks r.2 branches (.group change r.1 :: parts) hbranches
      (forall_mem_cons_proper hr hparts)
    exact .mono (.next hspent fun c => .ite hrest .fail) (Nat.le_succ n)

theorem repeated_steady (h : SteadyContent dead n inner inner') (blanks : Bool)
    (names : List String) (hbranches : ∀ t ∈ branches, t.Proper) (hparts : ∀ t ∈ parts, t.Proper)
    {least : Nat} {most : Option Nat} (hcounts : ∀ m, most = some m → least ≤ m) :
    Steady dead n ProperContent (repeated inner blanks names branches parts least most)
      (repeated inner' blanks names branches parts least most) :=
  .given fun _ heq => lazily_steady
    (h _ _ _ _ hbranches (repeatLast_proper hcounts hparts heq))

theorem proceed_steady (hspent : Spent dead) (h : SteadyContent dead n inner inner')
    (hbrace : ∀ blanks names branches parts cs, skip blanks cs = [] →
      inner' blanks names branches parts ('\x7b' :: cs ++ closing) = none)
    (blanks : Bool) (names : List String) (hbranches : ∀ t ∈ branches, t.Proper)
    (hparts : ∀ t ∈ parts, t.Proper) (c : Char) :
    Steady dead n ProperContent (proceed inner blanks names branches parts c)
      (proceed inner' blanks names branches parts c) := by
  have hpart (t : PatternTree) (ht : t.Proper) :
      Steady dead n ProperContent (inner blanks names branches (t :: parts))
        (inner' blanks names branches (t :: parts)) :=
    h _ _ _ _ hbranches (forall_mem_cons_proper ht hparts)
  have hrepeated {least : Nat} {most : Option Nat} (hcounts : ∀ m, most = some m → least ≤ m) :=
    repeated_steady h blanks names hbranches hparts hcounts
  refine .ite ?bar (.ite ?group (.ite ?bracket (.ite (hrepeated ?maybe) (.ite (hrepeated ?star)
    (.ite (hrepeated ?plus) (.ite ?counts (.ite ?escape (hpart _ (single_proper c)))))))))
  case bar =>
    have hbranch : (ofParts parts.reverse).Proper :=
      ofParts_proper fun t ht => hparts t (List.mem_reverse.mp ht)
    exact h _ _ _ _ (forall_mem_cons_proper hbranch hbranches) fun _ h => nomatch h
  case group =>
    exact (openGroup_steady hspent blanks).bind hspent fun opening _ =>
      grouped_steady hspent h blanks names hbranches hparts opening
  case bracket => exact (bracketed_steady blanks).bind hspent hpart
  case maybe => exact fun m _ => Nat.zero_le m
  case star => exact fun m heq => nomatch heq
  case plus => exact fun m heq => nomatch heq
  case counts => exact (counts_steady hspent blanks).bind hspent fun r hr => hrepeated hr
  case escape =>
    refine .mono (escape_bind hspent blanks hpart (fun t ht _ _ _ => ?_) fun cs => ?_) (Nat.le_succ n)
    · exact (hpart t ht).dead_of_eq hspent
    · exact hbrace _ _ _ _ cs

/-- One step takes a character and is as steady as what reads the rest. -/
theorem contentStep_steady (hspent : Spent dead) (h : SteadyContent dead n inner inner')
    (hbrace : ∀ blanks names branches parts cs, skip blanks cs = [] →
      inner' blanks names branches parts ('\x7b' :: cs ++ closing) = none) :
    SteadyContent dead (n + 1) (fun blanks names branches parts =>
        Reader.after blanks (contentStep inner blanks names branches parts))
      fun blanks names branches parts =>
        Reader.after blanks (contentStep inner' blanks names branches parts) := by
  intro blanks names branches parts hbranches hparts
  have hproceed := proceed_steady hspent h hbrace blanks names hbranches hparts
  have hfinish : ProperContent (finish branches parts, names) := finish_proper hbranches hparts
  have hsound {x : ContentReader}
      (hx : ∀ c, Sound ProperContent (proceed x blanks names branches parts c)) :
      Sound ProperContent (contentStep x blanks names branches parts) := by
    intro cs r rest hr
    cases cs with
    | nil =>
      cases hr
      exact ⟨List.suffix_rfl, hfinish⟩
    | cons c cs =>
      rw [contentStep] at hr
      split_ifs at hr
      · cases hr
        exact ⟨List.suffix_rfl, hfinish⟩
      · obtain ⟨hrest, hr⟩ := hx c cs r rest hr
        exact ⟨hrest.trans (List.suffix_cons c cs), hr⟩
  refine .after ⟨hsound fun c => (hproceed c).sound, hsound fun c => (hproceed c).sound',
    fun {cs} hcs => ?_, fun _ => rfl⟩ blanks
  cases cs with
  | nil => exact .inl rfl
  | cons c cs =>
    rw [List.cons_append, contentStep, contentStep]
    split_ifs
    · exact .inl rfl
    · exact (hproceed c).carried (Nat.lt_of_succ_lt_succ hcs)

end

/-! ## Contents -/

/-- At a brace with nothing after it no counts can be read. -/
theorem inside_brace (fuel : Nat) (blanks : Bool) (names : List String)
    (branches parts : List PatternTree) (cs : List Char) (h : skip blanks cs = []) :
    inside fuel blanks names branches parts ('\x7b' :: cs ++ closing) = none := by
  cases fuel with
  | zero => rfl
  | succ fuel =>
    have hskip : skip blanks ('\x7b' :: cs ++ closing) = '\x7b' :: (cs ++ closing) := by
      have hblank : Unicode.isBlank '\x7b' = false := by decide +kernel
      cases blanks with
      | true => simp [skip, skipBlanks, hblank]
      | false => rfl
    have hcounts : counts blanks (cs ++ closing) = none := by
      have hnil : countOf blanks [] = none := rfl
      have hclosing : countOf blanks closing = none := by
        cases blanks <;> decide +kernel
      rw [counts_eq, Reader.bind, Reader.after]
      rcases skip_closing blanks cs with hleft | ⟨-, hleft⟩
      · rw [hleft, h, List.nil_append, hclosing]
        rfl
      · rw [hleft, hnil]
        rfl
    rw [inside_succ, Reader.after, hskip]
    exact congrArg (Option.bind · _) hcounts

/-- The content of a group is read in the same way with the closing after it, with whatever
reserve of steps. -/
theorem inside_add {dead : List Char → Prop} (hspent : Spent dead) {extra : Nat}
    (h : ∀ blanks names branches parts, (∀ t ∈ branches, t.Proper) → (∀ t ∈ parts, t.Proper) →
      Sound ProperContent (inside extra blanks names branches parts)) (fuel : Nat) :
    SteadyContent dead fuel (inside fuel) (inside (fuel + extra)) := by
  induction fuel with
  | zero =>
    intro blanks names branches parts hbranches hparts
    rw [Nat.zero_add]
    exact ⟨.fail, h _ _ _ _ hbranches hparts, fun hlt => absurd hlt (Nat.not_lt_zero _),
      fun hlt => absurd hlt (Nat.not_lt_zero 0)⟩
  | succ fuel ih =>
    intro blanks names branches parts hbranches hparts
    rw [Nat.succ_add, inside_succ, inside_succ]
    exact contentStep_steady hspent ih (inside_brace _) _ _ _ _ hbranches hparts

theorem inside_steady {dead : List Char → Prop} (hspent : Spent dead) (extra fuel : Nat) :
    SteadyContent dead fuel (inside fuel) (inside (fuel + extra)) :=
  inside_add hspent (fun _ _ _ _ hbranches hparts =>
    (@inside_add dead hspent 0 (fun _ _ _ _ _ _ => .fail) extra _ _ _ _ hbranches hparts).sound) fuel

/-! ## Reserves -/

/-- A reader that reads all that another one reads. -/
def Extends {α : Type} (x y : Reader α) : Prop := ∀ cs r, x cs = some r → y cs = some r

namespace Extends

variable {α β : Type} {x y x' y' : Reader α}

theorem refl (x : Reader α) : Extends x x := fun _ _ h => h

theorem bind {f g : α → Reader β} (h : Extends x y) (hf : ∀ a, Extends (f a) (g a)) :
    Extends (x.bind f) (y.bind g) := by
  intro cs r hr
  obtain ⟨⟨a, rest⟩, hx, hr⟩ := Option.bind_eq_some_iff.mp hr
  exact Option.bind_eq_some_iff.mpr ⟨(a, rest), h cs _ hx, hf a rest r hr⟩

theorem given {o : Option β} {f g : β → Reader α} (h : ∀ b, Extends (f b) (g b)) :
    Extends (given o f) (given o g) := by
  cases o with
  | none => exact refl _
  | some b => exact h b

theorem ite {c : Prop} [Decidable c] (h : Extends x y) (h' : Extends x' y') :
    Extends (if c then x else x') (if c then y else y') := by
  split
  · exact h
  · exact h'

theorem next {f g : Char → Reader α} (h : ∀ c, Extends (f c) (g c)) :
    Extends (next f) (next g) := by
  intro cs r hr
  cases cs with
  | nil => exact hr
  | cons c cs => exact h c cs r hr

end Extends

section

variable {inner inner' : ContentReader} (blanks : Bool) (names : List String)
  (branches parts : List PatternTree)

theorem proceed_extends (h : ∀ blanks names branches parts,
      Extends (inner blanks names branches parts) (inner' blanks names branches parts)) (c : Char) :
    Extends (proceed inner blanks names branches parts c)
      (proceed inner' blanks names branches parts c) := by
  have hrepeated (least : Nat) (most : Option Nat) :
      Extends (repeated inner blanks names branches parts least most)
        (repeated inner' blanks names branches parts least most) :=
    .given fun _ cs => h _ _ _ _ (skipLazy cs)
  have hgrouped (opening : Opening) : Extends (grouped inner blanks names branches parts opening)
      (grouped inner' blanks names branches parts opening) := by
    cases opening with
    | flags change => exact h _ _ _ _
    | group change name =>
      exact .ite (.refl _) (.bind (h _ _ _ _) fun r => .next fun c => .ite (h _ _ _ _) (.refl _))
  exact .ite (h _ _ _ _) (.ite (.bind (.refl _) hgrouped) (.ite (.bind (.refl _) fun t => h _ _ _ _)
    (.ite (hrepeated _ _) (.ite (hrepeated _ _) (.ite (hrepeated _ _)
      (.ite (.bind (.refl _) fun r => hrepeated _ _)
        (.ite (.bind (.refl _) fun t => h _ _ _ _) (h _ _ _ _))))))))

/-- A greater reserve of steps does not change what is read. -/
theorem inside_extends (fuel extra : Nat) :
    Extends (inside fuel blanks names branches parts)
      (inside (fuel + extra) blanks names branches parts) := by
  induction fuel generalizing blanks names branches parts with
  | zero => exact fun _ _ h => nomatch h
  | succ fuel ih =>
    rw [Nat.succ_add, inside_succ, inside_succ]
    intro cs r hr
    rw [Reader.after] at hr ⊢
    cases hskip : skip blanks cs with
    | nil => rw [hskip] at hr; exact hr
    | cons c rest =>
      rw [hskip, contentStep] at hr
      rw [contentStep]
      split_ifs at hr ⊢
      · exact hr
      · exact proceed_extends blanks names branches parts ih c rest r hr

end

/-! ## Ends -/

/-- What a reader leaves is nothing or starts with a parenthesis. -/
def Stops {α : Type} (x : Reader α) : Prop := ∀ cs a c rest, x cs = some (a, c :: rest) → c = ')'

namespace Stops

variable {α β : Type} {x x' : Reader α}

theorem fail : Stops (fail : Reader α) := fun _ _ _ _ h => nomatch h

/-- What is left is left by the last of two readers. -/
theorem bind {f : α → Reader β} (x : Reader α) (hf : ∀ a, Stops (f a)) : Stops (x.bind f) := by
  intro cs b c rest hr
  obtain ⟨⟨a, left⟩, -, hr⟩ := Option.bind_eq_some_iff.mp hr
  exact hf a left b c rest hr

theorem given {o : Option β} {f : β → Reader α} (h : ∀ b, Stops (f b)) : Stops (given o f) := by
  cases o with
  | none => exact fail
  | some b => exact h b

theorem ite {p : Prop} [Decidable p] (h : Stops x) (h' : Stops x') :
    Stops (if p then x else x') := by
  split
  · exact h
  · exact h'

theorem next {f : Char → Reader α} (h : ∀ c, Stops (f c)) : Stops (next f) := by
  intro cs a c rest hr
  cases cs with
  | nil => exact nomatch hr
  | cons d cs => exact h d cs a c rest hr

end Stops

section

variable {inner : ContentReader} (blanks : Bool) (names : List String)
  (branches parts : List PatternTree)

theorem proceed_stops
    (h : ∀ blanks names branches parts, Stops (inner blanks names branches parts)) (c : Char) :
    Stops (proceed inner blanks names branches parts c) := by
  have hrepeated (least : Nat) (most : Option Nat) :
      Stops (repeated inner blanks names branches parts least most) :=
    .given fun _ cs => h _ _ _ _ (skipLazy cs)
  have hgrouped (opening : Opening) : Stops (grouped inner blanks names branches parts opening) := by
    cases opening with
    | flags change => exact h _ _ _ _
    | group change name =>
      exact .ite .fail (.bind _ fun r => .next fun c => .ite (h _ _ _ _) .fail)
  exact .ite (h _ _ _ _) (.ite (.bind _ hgrouped) (.ite (.bind _ fun t => h _ _ _ _)
    (.ite (hrepeated _ _) (.ite (hrepeated _ _) (.ite (hrepeated _ _)
      (.ite (.bind _ fun r => hrepeated _ _) (.ite (.bind _ fun t => h _ _ _ _) (h _ _ _ _))))))))

/-- The content of a group ends with the text or at a parenthesis. -/
theorem inside_stops (fuel : Nat) : Stops (inside fuel blanks names branches parts) := by
  induction fuel generalizing blanks names branches parts with
  | zero => exact .fail
  | succ fuel ih =>
    rw [inside_succ]
    intro cs r c rest hr
    rw [Reader.after] at hr
    cases hskip : skip blanks cs with
    | nil =>
      rw [hskip] at hr
      cases hr
    | cons d left =>
      rw [hskip, contentStep] at hr
      split_ifs at hr with hd
      · cases hr
        exact hd
      · exact proceed_stops blanks names branches parts ih d left r c rest hr

end

end Worksheet.PatternTree
