import Worksheet.Function.Library
import Worksheet.Proofs.Outcome

/- Worksheet Library Theory — what the built-in functions have in common.

   A function that is found in the built-in library is one of the list, so what holds
   of every function of the list holds of every call. None of them makes an error that
   only reading can make: a missing name or a cycle. -/
namespace Worksheet

namespace Library

/-- What is found in a library made from a list is in the list. -/
theorem mem_of_get?_ofList {fs : List Function} {name : String} {f : Function}
    (h : (ofList fs).get? name = some f) : f ∈ fs := by
  have hmem : ∀ (fs : List Function) (l : Library), (fs.foldl insert l).get? name = some f →
      f ∈ fs ∨ l.get? name = some f := by
    intro fs
    induction fs with
    | nil => exact fun l h => .inr h
    | cons g fs ih =>
      intro l h
      rcases ih (l.insert g) h with hf | hf
      · exact .inl (List.mem_cons_of_mem g hf)
      · rw [get?_insert] at hf
        split at hf
        · obtain rfl := Option.some.inj hf
          exact .inl List.mem_cons_self
        · exact .inr hf
  refine (hmem fs ∅ h).resolve_right fun hempty => ?_
  exact nomatch (Std.ExtTreeMap.getElem?_empty (a := Unicode.upper name)).symm.trans hempty

/-- Functions whose names are told apart are all found by their names. -/
theorem get?_ofList {fs : List Function}
    (hnames : (fs.map fun f => Unicode.upper f.name).Nodup) {f : Function} (hf : f ∈ fs) :
    (ofList fs).get? f.name = some f := by
  have hfound : ∀ (fs : List Function) (l : Library),
      (fs.map fun f => Unicode.upper f.name).Nodup →
      (f ∈ fs ∨ l.get? f.name = some f ∧ Unicode.upper f.name ∉ fs.map (Unicode.upper ·.name)) →
      (fs.foldl insert l).get? f.name = some f := by
    intro fs
    induction fs with
    | nil => exact fun l _ h => (h.resolve_left List.not_mem_nil).1
    | cons g fs ih =>
      intro l hnodup h
      obtain ⟨hg, hnodup⟩ := List.nodup_cons.mp hnodup
      refine ih (l.insert g) hnodup ?_
      rw [get?_insert]
      rcases h with h | ⟨h, hnot⟩
      · rcases List.mem_cons.mp h with rfl | h
        · exact .inr ⟨if_pos rfl, hg⟩
        · exact .inl h
      · rw [List.map_cons, List.mem_cons, not_or] at hnot
        exact .inr ⟨by rw [if_neg (Ne.symm hnot.1), h], hnot.2⟩
  exact hfound fs ∅ hnames (.inl hf)

theorem get?_builtin {f : Function} (hf : f ∈ Function.builtins) :
    builtin.get? f.name = some f := get?_ofList (by decide +kernel) hf

end Library

/-- An error that arises where a formula is calculated. The others are there because a
name that is read has no entry or reads itself. -/
def CellError.IsLocal (e : CellError) : Prop := e ≠ .unresolved ∧ e ≠ .cycle

namespace CellError

theorem isLocal_generic : IsLocal .generic := ⟨nofun, nofun⟩

theorem isLocal_divisionByZero : IsLocal .divisionByZero := ⟨nofun, nofun⟩

theorem isLocal_wrongType : IsLocal .wrongType := ⟨nofun, nofun⟩

end CellError

open CellError (IsLocal isLocal_generic isLocal_divisionByZero)

theorem fails_finite (x : Float) : Fails IsLocal (finite x) :=
  .ite (fun _ => .ok _) fun _ => .error isLocal_generic

namespace Function

theorem fails_numberArg (args : List Value) (i : Nat) : Fails IsLocal (numberArg args i) := by
  rw [numberArg]
  split
  · exact .ok _
  · exact .error isLocal_generic

theorem fails_numberArgD (args : List Value) (i : Nat) (default : Float) :
    Fails IsLocal (numberArgD args i default) := by
  rw [numberArgD]
  split
  · exact .ok _
  · exact .ok _
  · exact .error isLocal_generic

theorem fails_textArg (args : List Value) : Fails IsLocal (textArg args) := by
  unfold textArg
  split
  · exact .ok _
  · exact .error isLocal_generic

theorem fails_displayArg (args : List Value) : Fails IsLocal (displayArg args) := by
  cases args with
  | nil => exact .error isLocal_generic
  | cons v vs => exact .ok _

theorem fails_conditionArg (args : List Value) : Fails IsLocal (conditionArg args) := by
  unfold conditionArg
  split
  · exact .ok _
  · exact .error isLocal_generic

theorem fails_roundingArgs (args : List Value) : Fails IsLocal (roundingArgs args) :=
  (fails_numberArg args 0).bind fun _ => (fails_numberArgD args 1 0).bind fun _ => .ok _

theorem fails_average (args : List Value) : Fails IsLocal (average args) :=
  .ite (fun _ => .error isLocal_divisionByZero) fun _ => fails_finite _

theorem fails_sqrt (args : List Value) : Fails IsLocal (sqrt args) :=
  (fails_numberArg args 0).bind fun _ => .ite (fun _ => .error isLocal_generic) fun _ => .ok _

theorem fails_round (args : List Value) : Fails IsLocal (round args) :=
  (fails_roundingArgs args).bind fun _ => .ite (fun _ => fails_finite _) fun _ => fails_finite _

theorem fails_mod (args : List Value) : Fails IsLocal (mod args) :=
  (fails_numberArg args 0).bind fun _ => (fails_numberArg args 1).bind fun _ =>
    .ite (fun _ => .error isLocal_divisionByZero) fun _ => fails_finite _

theorem fails_power (args : List Value) : Fails IsLocal (power args) :=
  (fails_numberArg args 0).bind fun _ => (fails_numberArg args 1).bind fun _ => fails_finite _

theorem fails_ite (args : List Value) : Fails IsLocal (ite args) := by
  refine (fails_conditionArg args).bind fun _ => .ite (fun _ => ?_) fun _ => .ok _
  split
  · exact .ok _
  · exact .error isLocal_generic

/-- The built-in functions make local errors only. -/
theorem fails_builtins : ∀ f ∈ builtins, ∀ args, Fails IsLocal (f.apply args) := by
  simp only [builtins, List.forall_mem_cons, List.not_mem_nil, false_imp_iff, implies_true,
    and_true]
  exact ⟨fun _ => fails_finite _, fails_average, fun _ => .ok _, fun _ => .ok _, fun _ => .ok _,
    fun args => (fails_numberArg args 0).bind fun _ => .ok _,
    fun args => (fails_numberArg args 0).bind fun _ => .ok _,
    fails_sqrt, fails_round,
    fun args => (fails_roundingArgs args).bind fun _ => fails_finite _,
    fun args => (fails_roundingArgs args).bind fun _ => fails_finite _,
    fails_mod, fails_power, fails_ite, fun _ => .ok _, fun _ => .ok _,
    fun args => (fails_conditionArg args).bind fun _ => .ok _,
    fun _ => .ok _, fun _ => .ok _,
    fun args => (fails_displayArg args).bind fun _ => .ok _,
    fun args => (fails_displayArg args).bind fun _ => .ok _,
    fun args => (fails_textArg args).bind fun _ => .ok _,
    fun args => (fails_textArg args).bind fun _ => .ok _,
    fun args => (fails_textArg args).bind fun _ => .ok _⟩

end Function

/-- A call of a built-in function makes local errors only. -/
theorem Library.fails_builtin {name : String} {f : Function} (h : builtin.get? name = some f)
    (args : List Value) : Fails IsLocal (f.apply args) :=
  Function.fails_builtins f (mem_of_get?_ofList h) args

end Worksheet
