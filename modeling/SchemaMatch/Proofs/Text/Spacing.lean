import Mathlib.Data.List.TakeWhile
import Mathlib.Logic.Relation
import SchemaMatch.Assertion

/-!
Contract: texts that differ in their blanks only.

Owns:
- the maximal runs of characters that are not blank, as they lie in a text, and
  `Text.hasRuns_iff`, which says that the words of the text list them;
- `Text.words_joinWords`: words that are put together come apart again;
- changes to the blanks of a text, which keep its words;
- `Assertion.equalUpToBlanks_compares_runs`: a comparison of messages passes if they have the same
  runs, and how their blanks are laid out does not show in its outcome.

Everything about words follows from one equation, `Text.words_append_blank`.

Does not own: which characters are blank.
-/

namespace SchemaMatch

namespace Text

/-! ## Texts fall apart at blanks -/

section Words

variable {character next : Char} {text rest word before run after : List Char}
  {others : List (List Char)}

theorem words_cons_of_blank (blank : isBlank character = true) (rest : List Char) :
    words (character :: rest) = words rest := by
  rw [words, if_pos blank]

/-- A character that is not blank begins the first word. -/
theorem exists_words_cons (solid : isBlank character = false) (rest : List Char) :
    ∃ word others, words (character :: rest) = (character :: word) :: others := by
  rw [words, if_neg (by simp [solid])]
  unfold prepend
  split
  · split
    · exact ⟨_, _, rfl⟩
    · exact ⟨_, _, rfl⟩
  · exact ⟨_, _, rfl⟩

theorem words_cons_of_ends (solid : isBlank character = false)
    (ends : ∀ next ∈ rest.head?, isBlank next = true) :
    words (character :: rest) = [character] :: words rest := by
  rw [words, if_neg (by simp [solid])]
  unfold prepend
  split
  · rw [if_pos (ends _ rfl)]
  · rfl

theorem words_cons_of_solid (solid : isBlank character = false) (solidNext : isBlank next = false)
    (continued : words (next :: rest) = word :: others) :
    words (character :: next :: rest) = (character :: word) :: others := by
  rw [words, if_neg (by simp [solid]), continued, prepend, if_neg (by simp [solidNext])]

/-- No word reaches across a blank. -/
theorem words_append_blank (blank : isBlank next = true) (before after : List Char) :
    words (before ++ next :: after) = words before ++ words after := by
  induction before with
  | nil => exact words_cons_of_blank blank after
  | cons character rest inductionHypothesis =>
      cases solid : isBlank character with
      | true =>
          rw [List.cons_append, words_cons_of_blank solid, words_cons_of_blank solid,
            inductionHypothesis]
      | false =>
          cases rest with
          | nil =>
              have alone : words [character] = [[character]] :=
                words_cons_of_ends solid (by simp)
              have beforeBlank : words (character :: next :: after) =
                  [character] :: words (next :: after) :=
                words_cons_of_ends solid (by simp [blank])
              rw [List.singleton_append, beforeBlank, alone, words_cons_of_blank blank,
                List.singleton_append]
          | cons second rest =>
              rw [List.cons_append] at inductionHypothesis ⊢
              cases solidSecond : isBlank second with
              | true =>
                  rw [List.cons_append, words_cons_of_ends solid (by simp [solidSecond]),
                    words_cons_of_ends solid (by simp [solidSecond]), inductionHypothesis]
                  rfl
              | false =>
                  obtain ⟨word, others, split⟩ := exists_words_cons solidSecond rest
                  rw [split] at inductionHypothesis
                  rw [List.cons_append, words_cons_of_solid solid solidSecond inductionHypothesis,
                    words_cons_of_solid solid solidSecond split]
                  rfl

/-- A text falls apart where a blank or nothing follows, and where a blank or nothing goes before. -/
theorem words_append_of_ends (before : List Char)
    (ends : ∀ next ∈ after.head?, isBlank next = true) :
    words (before ++ after) = words before ++ words after := by
  cases after with
  | nil => rw [List.append_nil, words, List.append_nil]
  | cons next rest =>
      have blank : isBlank next = true := ends next rfl
      rw [words_append_blank blank, words_cons_of_blank blank]

theorem words_append_of_begins
    (begins : ∀ last ∈ before.getLast?, isBlank last = true) (after : List Char) :
    words (before ++ after) = words before ++ words after := by
  rcases before.eq_nil_or_concat with rfl | ⟨start, last, rfl⟩
  · rfl
  · have blank : isBlank last = true := begins last (by simp)
    have alone : words (start ++ [last]) = words start := by
      rw [words_append_blank blank, words, List.append_nil]
    rw [List.concat_eq_append, alone, List.append_assoc, List.singleton_append,
      words_append_blank blank]

theorem words_of_solid (nonempty : run ≠ [])
    (solid : ∀ character ∈ run, isBlank character = false) : words run = [run] := by
  induction run with
  | nil => exact absurd rfl nonempty
  | cons character rest inductionHypothesis =>
      have here : isBlank character = false := solid character List.mem_cons_self
      cases rest with
      | nil => exact words_cons_of_ends here (by simp)
      | cons next rest =>
          have solidRest : ∀ other ∈ next :: rest, isBlank other = false :=
            fun other member => solid other (List.mem_cons_of_mem _ member)
          exact words_cons_of_solid here (solidRest next List.mem_cons_self)
            (inductionHypothesis (List.cons_ne_nil _ _) solidRest)

end Words

/-! ## Runs in a text -/

/-- Nothing but blanks. -/
def AllBlank (text : List Char) : Prop :=
  ∀ character ∈ text, isBlank character = true

instance (text : List Char) : Decidable (AllBlank text) :=
  decidable_of_iff (text.all isBlank = true) List.all_eq_true

/-- A maximal run in a text: some characters that are not blank, where the text before ends with a
blank, if it has an end, and the text after begins with one. -/
structure IsRun (before run after : List Char) : Prop where
  nonempty : run ≠ []
  solid : ∀ character ∈ run, isBlank character = false
  begins : ∀ last ∈ before.getLast?, isBlank last = true
  ends : ∀ next ∈ after.head?, isBlank next = true

/-- The maximal runs of a text, from left to right. -/
inductive HasRuns : List Char → List (List Char) → Prop where
  | none {text : List Char} (blank : AllBlank text) : HasRuns text []
  | first {before run after : List Char} {runs : List (List Char)} (blank : AllBlank before)
      (isRun : IsRun before run after) (rest : HasRuns after runs) :
      HasRuns (before ++ run ++ after) (run :: runs)

section Runs

variable {character : Char} {text before run after : List Char} {runs : List (List Char)}

theorem words_of_allBlank (blank : AllBlank text) : words text = [] := by
  induction text with
  | nil => rfl
  | cons character rest inductionHypothesis =>
      rw [words_cons_of_blank (blank character List.mem_cons_self)]
      exact inductionHypothesis fun other member => blank other (List.mem_cons_of_mem _ member)

/-- Wherever a run lies, the words list it in its place. -/
theorem words_of_isRun (isRun : IsRun before run after) :
    words (before ++ run ++ after) = words before ++ run :: words after := by
  rw [words_append_of_ends _ isRun.ends, words_append_of_begins isRun.begins,
    words_of_solid isRun.nonempty isRun.solid, List.append_assoc, List.singleton_append]

theorem HasRuns.words_eq (hasRuns : HasRuns text runs) : words text = runs := by
  induction hasRuns with
  | none blank => exact words_of_allBlank blank
  | first blank isRun _ inductionHypothesis =>
      rw [words_of_isRun isRun, words_of_allBlank blank, inductionHypothesis, List.nil_append]

theorem HasRuns.solid (hasRuns : HasRuns text runs) :
    ∀ run ∈ runs, run ≠ [] ∧ ∀ character ∈ run, isBlank character = false := by
  induction hasRuns with
  | none _ => simp
  | first _ isRun _ inductionHypothesis =>
      intro run member
      rcases List.mem_cons.mp member with rfl | later
      · exact ⟨isRun.nonempty, isRun.solid⟩
      · exact inductionHypothesis run later

/-- A run that begins with a character lasts to the next blank. -/
theorem exists_run (solid : isBlank character = false) (tail : List Char) :
    ∃ run after, run ++ after = character :: tail ∧ after.length ≤ tail.length ∧
      ∀ before, AllBlank before → IsRun before run after := by
  refine ⟨character :: tail.takeWhile (!isBlank ·), tail.dropWhile (!isBlank ·), ?_,
    List.length_dropWhile_le _ tail, fun before blank => ⟨List.cons_ne_nil _ _, ?_, ?_, ?_⟩⟩
  · rw [List.cons_append, List.takeWhile_append_dropWhile]
  · intro other member
    rcases List.mem_cons.mp member with rfl | inTail
    · exact solid
    · simpa using List.mem_takeWhile_imp inTail
  · intro last isLast
    exact blank last (List.mem_of_mem_getLast? isLast)
  · intro next isNext
    have stopped := List.head?_dropWhile_not (!isBlank ·) tail
    rw [isNext] at stopped
    simpa using stopped

/-- Behind the blanks in front the first run begins, and the others follow it. -/
theorem exists_hasRuns (text : List Char) : ∃ runs, HasRuns text runs := by
  have blank : AllBlank (text.takeWhile isBlank) := fun _ member => List.mem_takeWhile_imp member
  have cut : text.takeWhile isBlank ++ text.dropWhile isBlank = text :=
    List.takeWhile_append_dropWhile
  have skipped := List.head?_dropWhile_not isBlank text
  cases remaining : text.dropWhile isBlank with
  | nil =>
      rw [remaining, List.append_nil] at cut
      exact ⟨[], .none (cut ▸ blank)⟩
  | cons character tail =>
      rw [remaining] at skipped cut
      obtain ⟨run, after, split, inTail, isRun⟩ := exists_run skipped tail
      have shorter : after.length < text.length := by
        rw [← cut, List.length_append, List.length_cons]
        omega
      obtain ⟨runs, rest⟩ := exists_hasRuns after
      rw [← split, ← List.append_assoc] at cut
      exact ⟨run :: runs, cut ▸ .first blank (isRun _ blank) rest⟩
termination_by text.length

/-- The words of a text are its maximal runs. -/
theorem hasRuns_iff : HasRuns text runs ↔ words text = runs := by
  constructor
  · exact HasRuns.words_eq
  · rintro rfl
    obtain ⟨runs, hasRuns⟩ := exists_hasRuns text
    rwa [hasRuns.words_eq]

/-- No maximal run is left out: it stands between those of the text before and after. -/
theorem hasRuns_of_isRun {earlier later : List (List Char)} (isRun : IsRun before run after)
    (hasEarlier : HasRuns before earlier) (hasLater : HasRuns after later) :
    HasRuns (before ++ run ++ after) (earlier ++ run :: later) := by
  rw [hasRuns_iff, words_of_isRun isRun, hasEarlier.words_eq, hasLater.words_eq]

end Runs

/-! ## Words put together -/

theorem words_joinWords {runs : List (List Char)}
    (areRuns : ∀ run ∈ runs, run ≠ [] ∧ ∀ character ∈ run, isBlank character = false) :
    words (joinWords runs) = runs := by
  induction runs with
  | nil => rfl
  | cons run rest inductionHypothesis =>
      obtain ⟨nonempty, solid⟩ := areRuns run List.mem_cons_self
      have restAreRuns := fun other member => areRuns other (List.mem_cons_of_mem run member)
      cases rest with
      | nil => exact words_of_solid nonempty solid
      | cons next rest =>
          rw [joinWords, words_append_blank (by decide), words_of_solid nonempty solid,
            inductionHypothesis restAreRuns, List.singleton_append]
          exact List.cons_ne_nil _ _

/-- To collapse a text keeps its words. -/
theorem words_collapse (text : String) : words (collapse text).toList = words text.toList := by
  have hasRuns : HasRuns text.toList (words text.toList) := hasRuns_iff.mpr rfl
  rw [collapse, String.toList_ofList, words_joinWords hasRuns.solid]

theorem collapse_eq_iff {text other : String} :
    collapse text = collapse other ↔ words text.toList = words other.toList := by
  constructor
  · intro same
    rw [← words_collapse text, same, words_collapse]
  · intro same
    rw [collapse, collapse, same]

/-! ## Changes to blanks -/

/-- A change to the blanks of a text: some are replaced by others. Only at an end of the text may
there have been none, or be none afterwards. -/
inductive Respaced : List Char → List Char → Prop where
  | between {blanks others : List Char} (before after : List Char) (blank : AllBlank blanks)
      (otherBlank : AllBlank others) (some : blanks ≠ []) (someOthers : others ≠ []) :
      Respaced (before ++ blanks ++ after) (before ++ others ++ after)
  | start {blanks others : List Char} (after : List Char) (blank : AllBlank blanks)
      (otherBlank : AllBlank others) : Respaced (blanks ++ after) (others ++ after)
  | finish {blanks others : List Char} (before : List Char) (blank : AllBlank blanks)
      (otherBlank : AllBlank others) : Respaced (before ++ blanks) (before ++ others)

section Respacing

variable {blanks text other : List Char}

theorem words_blanks_append (blank : AllBlank blanks) (after : List Char) :
    words (blanks ++ after) = words after := by
  rw [words_append_of_begins fun last isLast => blank last (List.mem_of_mem_getLast? isLast),
    words_of_allBlank blank, List.nil_append]

theorem words_append_blanks (before : List Char) (blank : AllBlank blanks) :
    words (before ++ blanks) = words before := by
  rw [words_append_of_ends before fun next isNext => blank next (List.mem_of_mem_head? isNext),
    words_of_allBlank blank, List.append_nil]

theorem words_between (before after : List Char) (blank : AllBlank blanks) (some : blanks ≠ []) :
    words (before ++ blanks ++ after) = words before ++ words after := by
  cases blanks with
  | nil => exact absurd rfl some
  | cons first rest =>
      have restBlank : AllBlank rest := fun other member =>
        blank other (List.mem_cons_of_mem _ member)
      rw [List.append_assoc, List.cons_append, words_append_blank (blank first List.mem_cons_self),
        words_blanks_append restBlank]

theorem words_respaced (respaced : Respaced text other) : words other = words text := by
  cases respaced with
  | between before after blank otherBlank some someOthers =>
      rw [words_between before after blank some, words_between before after otherBlank someOthers]
  | start after blank otherBlank =>
      rw [words_blanks_append blank, words_blanks_append otherBlank]
  | finish before blank otherBlank =>
      rw [words_append_blanks before blank, words_append_blanks before otherBlank]

theorem words_respaced_often (respaced : Relation.ReflTransGen Respaced text other) :
    words other = words text := by
  induction respaced with
  | refl => rfl
  | tail _ last inductionHypothesis => exact (words_respaced last).trans inductionHypothesis

end Respacing

end Text

namespace Assertion

open Text

theorem equalUpToBlanks_eq_ok_iff {message expected : String} :
    equalUpToBlanks message expected = .ok () ↔
      words message.toList = words expected.toList := by
  rw [← collapse_eq_iff, equalUpToBlanks]
  split
  next same => exact iff_of_true rfl same
  next differ =>
      refine iff_of_false ?_ differ
      intro impossible
      cases impossible

/-- Each text has one sequence of maximal runs of characters that are not blank, every run in its
place, and two texts pass the comparison if they have the same. So passing is an equivalence. The
blanks of both texts may be changed without any effect on the outcome. The message of a failure
quotes the texts collapsed, which to collapse again does not change. -/
theorem equalUpToBlanks_compares_runs :
    (∀ text, ∃! runs, HasRuns text runs) ∧
    (∀ before run after earlier later, IsRun before run after → HasRuns before earlier →
      HasRuns after later → HasRuns (before ++ run ++ after) (earlier ++ run :: later)) ∧
    (∀ message expected, equalUpToBlanks message expected = .ok () ↔
      ∃ runs, HasRuns message.toList runs ∧ HasRuns expected.toList runs) ∧
    Equivalence (fun message expected => equalUpToBlanks message expected = .ok ()) ∧
    (∀ message expected otherMessage otherExpected : String,
      Relation.ReflTransGen Respaced message.toList otherMessage.toList →
      Relation.ReflTransGen Respaced expected.toList otherExpected.toList →
      equalUpToBlanks otherMessage otherExpected = equalUpToBlanks message expected) ∧
    (∀ message expected failure, equalUpToBlanks message expected = .error failure →
      failure.message = "'" ++ collapse message ++ "' !== '" ++ collapse expected ++ "'") ∧
    (∀ text, collapse (collapse text) = collapse text) := by
  refine ⟨?_, ?_, ?_, ?_, ?_, ?_, ?_⟩
  · intro text
    exact ⟨words text, hasRuns_iff.mpr rfl, fun runs hasRuns => hasRuns.words_eq.symm⟩
  · intro before run after earlier later isRun hasEarlier hasLater
    exact hasRuns_of_isRun isRun hasEarlier hasLater
  · intro message expected
    simp only [hasRuns_iff, equalUpToBlanks_eq_ok_iff]
    constructor
    · intro same
      exact ⟨_, same, rfl⟩
    · rintro ⟨runs, ofMessage, ofExpected⟩
      rw [ofMessage, ofExpected]
  · simp only [equalUpToBlanks_eq_ok_iff]
    exact ⟨fun _ => rfl, fun same => same.symm, fun first second => first.trans second⟩
  · intro message expected otherMessage otherExpected messageRespaced expectedRespaced
    have sameMessage : collapse otherMessage = collapse message :=
      collapse_eq_iff.mpr (words_respaced_often messageRespaced)
    have sameExpected : collapse otherExpected = collapse expected :=
      collapse_eq_iff.mpr (words_respaced_often expectedRespaced)
    rw [equalUpToBlanks, equalUpToBlanks, sameMessage, sameExpected]
  · intro message expected failure fails
    rw [equalUpToBlanks] at fails
    split at fails
    · cases fails
    · cases fails
      rfl
  · intro text
    exact collapse_eq_iff.mpr (words_collapse text)

/-- A tab and a line break stand for one space, an ideographic space comes in front and the space
at the end goes. The message still fails as it did. -/
theorem equalUpToBlanks_of_respaced_message :
    let message := "is 1 "
    let respaced := "\u3000is\t\n1"
    let expected := "is 2"
    Relation.ReflTransGen Respaced message.toList respaced.toList ∧
      equalUpToBlanks message expected = .error ⟨"'is 1' !== 'is 2'"⟩ ∧
      equalUpToBlanks respaced expected = .error ⟨"'is 1' !== 'is 2'"⟩ := by
  intro message respaced expected
  have first : Respaced "is 1 ".toList "\u3000is 1 ".toList :=
    @Respaced.start [] ['\u3000'] "is 1 ".toList (by decide) (by decide)
  have second : Respaced "\u3000is 1 ".toList "\u3000is\t\n1 ".toList :=
    @Respaced.between [' '] ['\t', '\n'] "\u3000is".toList "1 ".toList
      (by decide) (by decide) (by decide) (by decide)
  have third : Respaced "\u3000is\t\n1 ".toList "\u3000is\t\n1".toList :=
    @Respaced.finish [' '] [] "\u3000is\t\n1".toList (by decide) (by decide)
  have steps : Relation.ReflTransGen Respaced message.toList respaced.toList :=
    ((Relation.ReflTransGen.single first).tail second).tail third
  have fails : equalUpToBlanks message expected = .error ⟨"'is 1' !== 'is 2'"⟩ := by decide
  obtain ⟨-, -, -, -, unchanged, -, -⟩ := equalUpToBlanks_compares_runs
  exact ⟨steps, fails, (unchanged message expected respaced expected steps .refl).trans fails⟩

end Assertion

end SchemaMatch
