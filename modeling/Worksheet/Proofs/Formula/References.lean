import Worksheet.Proofs.Formula.Locality
import Worksheet.Proofs.Place

/- Worksheet References — what an expression reads, told by the places of its names.

   A place in an expression is the way to it from the root: the number of the child that
   is taken at each step. Places are compared as lists of numbers are, so a place that is
   less is further to the left. A name occurs at each place where the part of the
   expression is a reference to it (`Expr.part?`), whatever way one goes through the tree.

   The list of references has each name that occurs once, and a name stands before
   another if its leftmost place is to the left of all places of the other
   (`Expr.Before`). Beside it stands what evaluation makes of the list: it reads the
   context at these names only (`Expr.references_exact`). -/
namespace Worksheet.Expr

/-- The part of an expression at a place. -/
def part? : List Nat → Expr → Option Expr
  | [], e => some e
  | i :: p, e => e.children[i]?.bind (part? p)

/-- Some occurrence of `a` is to the left of every occurrence of `b`. -/
def Before (e : Expr) (a b : String) : Prop :=
  ∃ p, e.part? p = some (.ref a) ∧ ∀ q, e.part? q = some (.ref b) → p < q

mutual
/-- What holds of an expression if it holds of its children holds of every expression. -/
theorem of_children {P : Expr → Prop} (h : ∀ e, (∀ c ∈ e.children, P c) → P e) : ∀ e, P e
  | number x => h (number x) (List.forall_mem_nil P)
  | text s => h (text s) (List.forall_mem_nil P)
  | bool b => h (bool b) (List.forall_mem_nil P)
  | ref name => h (ref name) (List.forall_mem_nil P)
  | binary op l r =>
    h (binary op l r) (List.forall_mem_cons.mpr
      ⟨of_children h l, List.forall_mem_singleton.mpr (of_children h r)⟩)
  | unary op e => h (unary op e) (List.forall_mem_singleton.mpr (of_children h e))
  | percent e => h (percent e) (List.forall_mem_singleton.mpr (of_children h e))
  | call name args => h (call name args) (of_childrenAll h args)

theorem of_childrenAll {P : Expr → Prop} (h : ∀ e, (∀ c ∈ e.children, P c) → P e) :
    ∀ es : List Expr, ∀ c ∈ es, P c
  | [] => List.forall_mem_nil P
  | e :: es => List.forall_mem_cons.mpr ⟨of_children h e, of_childrenAll h es⟩
end

/-! ## The places of names -/

/-- Places in a child as places in the expression that it is child `i` of. -/
def under (i : Nat) (ps : List (List Nat × String)) : List (List Nat × String) :=
  ps.map fun (p, name) => (i :: p, name)

mutual
/-- The names in an expression with their places, from left to right. -/
def places : Expr → List (List Nat × String)
  | number _ | text _ | bool _ => []
  | ref name => [([], name)]
  | binary _ l r => under 0 l.places ++ under 1 r.places
  | unary _ e => under 0 e.places
  | percent e => under 0 e.places
  | call _ args => placesAll 0 args

/-- The names in some expressions, which are children from number `i` on. -/
def placesAll (i : Nat) : List Expr → List (List Nat × String)
  | [] => []
  | e :: es => under i e.places ++ placesAll (i + 1) es
end

/-- An expression that is no reference has the names of its children. -/
theorem eq_ref_or (e : Expr) :
    (∃ name, e = .ref name) ∨
      (∀ name, e ≠ .ref name) ∧ e.names = namesAll e.children ∧
        e.places = placesAll 0 e.children := by
  cases e <;> simp [names, namesAll, places, placesAll, children]

theorem placesAll_eq_gather (i : Nat) (es : List Expr) :
    placesAll i es = Place.gather places i es := by
  induction es generalizing i with
  | nil => rfl
  | cons e es ih => rw [placesAll, ih, Place.gather_cons, under]

theorem map_places (e : Expr) : e.places.map Prod.snd = e.names := by
  induction e using of_children with
  | h e ih =>
    rcases eq_ref_or e with ⟨name, rfl⟩ | ⟨-, hnames, hplaces⟩
    · rfl
    · rw [hnames, hplaces, placesAll_eq_gather, Place.map_snd_gather ih, namesAll_eq_flatMap]

/-- The places of a name are those at which the part is a reference to it. -/
theorem mem_places {e : Expr} {p : List Nat} {name : String} :
    (p, name) ∈ e.places ↔ e.part? p = some (.ref name) := by
  induction p generalizing e with
  | nil =>
    rcases eq_ref_or e with ⟨other, rfl⟩ | ⟨hne, -, hplaces⟩
    · simp [places, part?, eq_comm]
    · simp [hplaces, placesAll_eq_gather, Place.nil_notMem_gather, part?, hne]
  | cons i p ih =>
    rcases eq_ref_or e with ⟨other, rfl⟩ | ⟨-, -, hplaces⟩
    · simp [places, part?, children]
    · rw [hplaces, placesAll_eq_gather, Place.cons_mem_gather]
      simp [part?, Option.bind_eq_some_iff, ih]

/-- The places are listed from left to right. -/
theorem pairwise_places (e : Expr) : e.places.Pairwise fun x y => x.1 < y.1 := by
  induction e using of_children with
  | h e ih =>
    rcases eq_ref_or e with ⟨name, rfl⟩ | ⟨-, -, hplaces⟩
    · exact List.pairwise_singleton ..
    · rw [hplaces, placesAll_eq_gather]
      exact Place.pairwise_gather ih 0

/-! ## The list of references -/

/-- Where places are listed from left to right, names are listed in order of their first
occurrences by their leftmost places. -/
theorem pairwise_eraseDups {l : List (List Nat × String)}
    (h : l.Pairwise fun x y => x.1 < y.1) :
    (l.map Prod.snd).eraseDups.Pairwise fun a b =>
      ∃ p, (p, a) ∈ l ∧ ∀ q, (q, b) ∈ l → p < q := by
  induction l using List.reverseRecOn with
  | nil => exact .nil
  | append_singleton l x ih =>
    obtain ⟨r, name⟩ := x
    obtain ⟨hl, -, hlast⟩ := List.pairwise_append.mp h
    have hr : ∀ p a, (p, a) ∈ l → p < r := fun p a hp => hlast (p, a) hp _ List.mem_cons_self
    -- the last place is to the right of all others, so it does not count against a name
    have hkeep : (l.map Prod.snd).eraseDups.Pairwise fun a b =>
        ∃ p, (p, a) ∈ l ++ [(r, name)] ∧ ∀ q, (q, b) ∈ l ++ [(r, name)] → p < q := by
      refine (ih hl).imp fun {a b} ⟨p, hp, hq⟩ => ⟨p, List.mem_append_left _ hp, fun q hb => ?_⟩
      rcases List.mem_append.mp hb with hb | hb
      · exact hq q hb
      · obtain ⟨rfl, -⟩ := Prod.mk.inj (List.mem_singleton.mp hb)
        exact hr p a hp
    rw [List.map_append, List.map_singleton, eraseDups_concat]
    split
    · exact hkeep
    · rename_i hnew
      refine List.pairwise_append.mpr ⟨hkeep, List.pairwise_singleton .., ?_⟩
      intro a ha b hb
      obtain rfl := List.mem_singleton.mp hb
      obtain ⟨⟨p, a⟩, hp, rfl⟩ := List.mem_map.mp (List.mem_eraseDups.mp ha)
      refine ⟨p, List.mem_append_left _ hp, fun q hq => ?_⟩
      rcases List.mem_append.mp hq with hq | hq
      · exact absurd (List.mem_map_of_mem hq) hnew
      · obtain ⟨rfl, -⟩ := Prod.mk.inj (List.mem_singleton.mp hq)
        exact hr p a hp

theorem mem_references_iff {e : Expr} {name : String} :
    name ∈ e.references ↔ ∃ p, e.part? p = some (.ref name) := by
  rw [mem_references, ← map_places, List.mem_map]
  simp [mem_places]

theorem pairwise_references (e : Expr) : e.references.Pairwise e.Before := by
  have h := pairwise_eraseDups (pairwise_places e)
  rw [map_places, ← references_eq] at h
  simp only [mem_places] at h
  exact h

/-- No name stands before itself. -/
theorem nodup_references (e : Expr) : e.references.Nodup := by
  refine (pairwise_references e).imp ?_
  rintro a _ ⟨p, hp, hleft⟩ rfl
  exact List.lt_irrefl p (hleft p hp)

/-- For every expression: its references are the names that occur in it, each once, in the
order of their leftmost occurrences; and with any functions and any nesting limit, two
contexts with the same entry, or none, at each of these names give it the same result. -/
theorem references_exact (e : Expr) :
    e.references.Nodup ∧
    (∀ name, name ∈ e.references ↔ ∃ p, e.part? p = some (.ref name)) ∧
    e.references.Pairwise e.Before ∧
    ∀ (functions : Library) (maxDepth : Nat) (c d : Context),
      (∀ name ∈ e.references, c.get? name = d.get? name) →
        e.eval ⟨c, functions, maxDepth⟩ = e.eval ⟨d, functions, maxDepth⟩ :=
  ⟨nodup_references e, fun _ => mem_references_iff, pairwise_references e,
    fun _ _ _ _ hagree => eval_congr hagree⟩

/-- `b` is read first in `SUM(b, a * -b) + c%`, and then not again. -/
example : (binary .add (.call "SUM" [.ref "b", .binary .mul (.ref "a") (.unary .negate (.ref "b"))])
    (.percent (.ref "c"))).references = ["b", "a", "c"] := by decide +kernel

end Worksheet.Expr
