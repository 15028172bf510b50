import SchemaMatch.Value.Class

/-!
Contract: classes as a program holds them, by handles.

Owns:
- the store of class definitions, which only grows, and the handles that lead into it;
- sameness of handles: one definition, or two of one built-in kind;
- the tag that a handle denotes; in the store of a program every handle denotes one;
- `ClassStore.sameHandle_iff_of_denotes`: handles are the same if and only if their tags are.

A tag is a class as a whole: its number stands for the place of its definition, and what the class
extends is part of it. So equality of tags needs no store; that it is the sameness of handles has
to be shown.

Does not own: objects that carry a tag.
-/

namespace SchemaMatch

/-- Tags of one class are equal, so sameness is an equivalence of tags. -/
theorem Class.equivalence_same : Equivalence fun left right : Class => left.same right = true where
  refl tag := beq_self_eq_true tag
  symm same := beq_iff_eq.mpr (beq_iff_eq.mp same).symm
  trans same next := beq_iff_eq.mpr ((beq_iff_eq.mp same).trans (beq_iff_eq.mp next))

/-- One definition of a class. The parent is a handle itself. -/
structure ClassDefinition where
  name : String
  parent : Option Nat
  builtin : Option BuiltinClass

namespace ClassDefinition

def ofBuiltin (kind : BuiltinClass) : ClassDefinition := ⟨kind.name, none, some kind⟩

def ofName (name : String) : ClassDefinition := ⟨name, none, none⟩

def ofParent (name : String) (parent : Nat) : ClassDefinition := ⟨name, some parent, none⟩

end ClassDefinition

/-- All definitions so far, the oldest first. A handle is the place of its definition. -/
abbrev ClassStore := List ClassDefinition

namespace ClassStore

variable {store : ClassStore} {left right handle : Nat} {tag first second : Class}

/-- A new definition and the handle that leads to it. -/
def define (store : ClassStore) (definition : ClassDefinition) : Nat × ClassStore :=
  (store.length, store ++ [definition])

def builtin? (store : ClassStore) (handle : Nat) : Option BuiltinClass :=
  store[handle]?.bind ClassDefinition.builtin

/-- Two handles are the same if they lead to one definition, or to built-in classes of one
kind. -/
def sameHandle (store : ClassStore) (left right : Nat) : Bool :=
  left == right ||
    ((store.builtin? left).isSome && store.builtin? left == store.builtin? right)

/-- A store as programs fill it. Built-in classes are obtained as often as one likes, and a class
extends one that is there. -/
inductive Built : ClassStore → Prop where
  | empty : Built []
  | builtin {store : ClassStore} (built : Built store) (kind : BuiltinClass) :
      Built (store.define (.ofBuiltin kind)).2
  | defined {store : ClassStore} (built : Built store) (name : String) :
      Built (store.define (.ofName name)).2
  | extending {store : ClassStore} (built : Built store) (name : String) {parent : Nat}
      (present : parent < store.length) : Built (store.define (.ofParent name parent)).2

/-- The class that a handle leads to, as a tag. -/
inductive Denotes (store : ClassStore) : Nat → Class → Prop where
  | builtin {handle : Nat} {kind : BuiltinClass}
      (found : store[handle]? = some (.ofBuiltin kind)) : Denotes store handle (.builtin kind)
  | defined {handle : Nat} {name : String} (found : store[handle]? = some (.ofName name)) :
      Denotes store handle (.defined handle name)
  | extending {handle parent : Nat} {name : String} {tag : Class}
      (found : store[handle]? = some (.ofParent name parent))
      (above : Denotes store parent tag) : Denotes store handle (.extending handle name tag)

/-! ## Sameness of handles -/

theorem sameHandle_iff :
    store.sameHandle left right = true ↔
      left = right ∨
        ∃ kind, store.builtin? left = some kind ∧ store.builtin? right = some kind := by
  simp only [sameHandle, Bool.or_eq_true, Bool.and_eq_true, beq_iff_eq, Option.isSome_iff_exists]
  constructor
  · rintro (same | ⟨⟨kind, isKind⟩, same⟩)
    · exact .inl same
    · exact .inr ⟨kind, isKind, same ▸ isKind⟩
  · rintro (same | ⟨kind, leftKind, rightKind⟩)
    · exact .inl same
    · exact .inr ⟨⟨kind, leftKind⟩, leftKind.trans rightKind.symm⟩

/-- Sameness is an equivalence of handles in any store. -/
theorem equivalence_sameHandle (store : ClassStore) :
    Equivalence fun left right => store.sameHandle left right = true where
  refl handle := sameHandle_iff.mpr (.inl rfl)
  symm same := by
    rcases sameHandle_iff.mp same with rfl | ⟨kind, leftKind, rightKind⟩
    · exact same
    · exact sameHandle_iff.mpr (.inr ⟨kind, rightKind, leftKind⟩)
  trans same next := by
    rcases sameHandle_iff.mp same with rfl | ⟨kind, leftKind, middleKind⟩
    · exact next
    · rcases sameHandle_iff.mp next with rfl | ⟨other, isOther, rightKind⟩
      · exact same
      · obtain rfl := Option.some.inj (middleKind.symm.trans isOther)
        exact sameHandle_iff.mpr (.inr ⟨kind, leftKind, rightKind⟩)

/-- A handle that leads to no built-in class is the same as itself only, whatever the class is
called. -/
theorem sameHandle_iff_eq (isOwn : store.builtin? left = none) :
    store.sameHandle left right = true ↔ left = right := by
  rw [sameHandle_iff]
  apply or_iff_left
  rintro ⟨kind, leftKind, -⟩
  rw [isOwn] at leftKind
  cases leftKind

/-! ## Tags -/

namespace Denotes

theorem builtin?_eq_some_iff (denotes : store.Denotes handle tag) {kind : BuiltinClass} :
    store.builtin? handle = some kind ↔ tag = .builtin kind := by
  cases denotes with
  | builtin found => simp [builtin?, found, ClassDefinition.ofBuiltin]
  | defined found => simp [builtin?, found, ClassDefinition.ofName]
  | extending found => simp [builtin?, found, ClassDefinition.ofParent]

/-- A handle denotes one tag only. The induction goes up to the class that extends none. -/
theorem unique (denotes : store.Denotes handle first) (other : store.Denotes handle second) :
    first = second := by
  induction denotes generalizing second with
  | builtin found =>
      have isKind := (other.builtin?_eq_some_iff).mp (by rw [builtin?, found]; rfl)
      exact isKind.symm
  | defined found =>
      cases other with
      | builtin otherFound => cases found.symm.trans otherFound
      | defined otherFound => cases found.symm.trans otherFound; rfl
      | extending otherFound => cases found.symm.trans otherFound
  | extending found above inductionHypothesis =>
      cases other with
      | builtin otherFound => cases found.symm.trans otherFound
      | defined otherFound => cases found.symm.trans otherFound
      | extending otherFound otherAbove =>
          cases found.symm.trans otherFound
          rw [inductionHypothesis otherAbove]

/-- Later definitions leave the earlier ones as they are. -/
theorem define (denotes : store.Denotes handle tag) (definition : ClassDefinition) :
    (store.define definition).2.Denotes handle tag := by
  have kept : ∀ {place : Nat} {entry : ClassDefinition}, store[place]? = some entry →
      (store.define definition).2[place]? = some entry := by
    intro place entry found
    exact (List.getElem?_append_left (List.getElem?_eq_some_iff.mp found).1).trans found
  induction denotes with
  | builtin found => exact .builtin (kept found)
  | defined found => exact .defined (kept found)
  | extending found _ inductionHypothesis => exact .extending (kept found) inductionHypothesis

end Denotes

/-- Handles are the same if and only if the classes are. -/
theorem sameHandle_iff_of_denotes (denotesLeft : store.Denotes left first)
    (denotesRight : store.Denotes right second) :
    store.sameHandle left right = true ↔ first.same second = true := by
  rw [sameHandle_iff, Class.same, beq_iff_eq]
  constructor
  · rintro (rfl | ⟨kind, leftKind, rightKind⟩)
    · exact denotesLeft.unique denotesRight
    · rw [denotesLeft.builtin?_eq_some_iff.mp leftKind,
        denotesRight.builtin?_eq_some_iff.mp rightKind]
  · rintro rfl
    cases denotesLeft with
    | builtin found =>
        exact .inr ⟨_, by rw [builtin?, found]; rfl, denotesRight.builtin?_eq_some_iff.mpr rfl⟩
    | defined => cases denotesRight; exact .inl rfl
    | extending => cases denotesRight; exact .inl rfl

/-! ## Every handle of a program -/

theorem getElem?_define (store : ClassStore) (definition : ClassDefinition) :
    (store.define definition).2[(store.define definition).1]? = some definition :=
  List.getElem?_concat_length

/-- If the new handle denotes a class and all earlier ones do, then all do. -/
theorem forall_denotes_define {definition : ClassDefinition}
    (earlier : ∀ handle < store.length, ∃ tag, store.Denotes handle tag)
    (fresh : ∃ tag, (store.define definition).2.Denotes store.length tag) :
    ∀ handle < (store.define definition).2.length,
      ∃ tag, (store.define definition).2.Denotes handle tag := by
  intro handle present
  rw [ClassStore.define, List.length_append, List.length_singleton, Nat.lt_succ_iff_lt_or_eq]
    at present
  rcases present with isEarlier | rfl
  · obtain ⟨tag, denotes⟩ := earlier handle isEarlier
    exact ⟨tag, denotes.define definition⟩
  · exact fresh

/-- Every handle that a program has obtained denotes a class. -/
theorem Built.exists_denotes (built : store.Built) :
    ∀ handle < store.length, ∃ tag, store.Denotes handle tag := by
  induction built with
  | empty => exact fun handle present => absurd present (Nat.not_lt_zero handle)
  | builtin _ kind inductionHypothesis =>
      exact forall_denotes_define inductionHypothesis ⟨_, .builtin (getElem?_define _ _)⟩
  | defined _ name inductionHypothesis =>
      exact forall_denotes_define inductionHypothesis ⟨_, .defined (getElem?_define _ _)⟩
  | extending _ name present inductionHypothesis =>
      obtain ⟨tag, above⟩ := inductionHypothesis _ present
      exact forall_denotes_define inductionHypothesis
        ⟨_, .extending (getElem?_define _ _) (above.define _)⟩

end ClassStore

end SchemaMatch
