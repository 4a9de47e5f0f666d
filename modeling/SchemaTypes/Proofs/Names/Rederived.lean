/-
This file derives the names of types from names of types. Main statement: where every letter has one
small letter and one capital, a name of a type makes itself exactly if each of its capitals begins a
word where it stands.
-/
import SchemaTypes.Proofs.Names.Derived

namespace SchemaTypes.Identifier

open Unicode

/-- Whether all capitals behind the first character begin words where they stand. -/
def capitalsBegin : List Char → Bool
  | previous :: current :: rest =>
    (lowerChar current == [current] || startsWord previous current rest.head?) &&
      capitalsBegin (current :: rest)
  | _ => true

variable {previous current : Char} {before rest : List Char}

section Words

/-- Where a word begins, the one before it is finished. -/
theorem wordsFrom_of_starts (kept : isAlphanumeric current = true)
    (starts : startsWord previous current rest.head? = true) :
    wordsFrom (previous :: before) (current :: rest) =
      (previous :: before).reverse :: wordsFrom [current] rest := by
  rw [wordsFrom, kept, if_neg (by decide), List.head?_cons, Option.any_some, if_pos starts]
  rfl

/-- Where no word begins, the character belongs to the one before it. -/
theorem wordsFrom_of_continues (kept : isAlphanumeric current = true)
    (continues : startsWord previous current rest.head? = false) :
    wordsFrom (previous :: before) (current :: rest) =
      wordsFrom (current :: previous :: before) rest := by
  rw [wordsFrom, kept, if_neg (by decide), List.head?_cons, Option.any_some,
    if_neg (by rw [continues]; decide)]

/-- Behind the first letters of the words, all is in small letters exactly if every capital begins a
word. -/
theorem settled_iff_capitalsBegin (kept : ∀ character ∈ rest, isAlphanumeric character = true) :
    (∀ word ∈ wordsFrom (previous :: before) rest, ∀ letter ∈ word.tail,
        lowerChar letter = [letter]) ↔
      (∀ letter ∈ (previous :: before).reverse.tail, lowerChar letter = [letter]) ∧
        capitalsBegin (previous :: rest) = true := by
  induction rest generalizing previous before with
  | nil => simp [wordsFrom, word?, capitalsBegin]
  | cons current rest inductionHypothesis =>
      obtain ⟨here, others⟩ := List.forall_mem_cons.mp kept
      have nonempty : (previous :: before).reverse ≠ [] := by simp
      cases starts : startsWord previous current rest.head? with
      | true =>
          rw [wordsFrom_of_starts here starts, List.forall_mem_cons, inductionHypothesis others,
            capitalsBegin, starts]
          simp
      | false =>
          rw [wordsFrom_of_continues here starts, inductionHypothesis others, capitalsBegin,
            starts, List.reverse_cons, List.tail_append_of_ne_nil nonempty, List.forall_mem_append]
          simp [and_assoc]

/-- A word that begins with a character that stays as it is there. -/
def Led (word : List Char) : Prop := ∃ first tail, word = first :: tail ∧ Opens first

/-- Every word of a name of a type begins with a character that opens words. -/
theorem wordsFrom_led (kept : ∀ character ∈ rest, isAlphanumeric character = true)
    (joints : (previous :: rest).IsChain fun previous current =>
      Opens current ∨ ∀ next, startsWord previous current next = false)
    (led : Led (previous :: before).reverse) :
    ∀ word ∈ wordsFrom (previous :: before) rest, Led word := by
  induction rest generalizing previous before with
  | nil => exact List.forall_mem_singleton.mpr led
  | cons current rest inductionHypothesis =>
      obtain ⟨here, others⟩ := List.forall_mem_cons.mp kept
      obtain ⟨joint, inner⟩ := List.isChain_cons_cons.mp joints
      cases starts : startsWord previous current rest.head? with
      | true =>
          rw [wordsFrom_of_starts here starts]
          have opens := joint.resolve_right fun never => by
            rw [never] at starts
            cases starts
          exact List.forall_mem_cons.mpr ⟨led, inductionHypothesis others inner
            ⟨current, [], rfl, opens⟩⟩
      | false =>
          rw [wordsFrom_of_continues here starts]
          obtain ⟨first, tail, begins, opens⟩ := led
          refine inductionHypothesis others inner ⟨first, tail ++ [current], ?_, opens⟩
          rw [List.reverse_cons, begins]
          rfl

/-- The collected characters begin the next word. -/
theorem exists_wordsFrom (kept : ∀ character ∈ rest, isAlphanumeric character = true) :
    ∃ more others, wordsFrom (previous :: before) rest =
      ((previous :: before).reverse ++ more) :: others := by
  induction rest generalizing previous before with
  | nil => exact ⟨[], [], by simp [wordsFrom, word?]⟩
  | cons current rest inductionHypothesis =>
      obtain ⟨here, others⟩ := List.forall_mem_cons.mp kept
      cases starts : startsWord previous current rest.head? with
      | true => exact ⟨[], _, by rw [wordsFrom_of_starts here starts, List.append_nil]⟩
      | false =>
          obtain ⟨more, later, whole⟩ :=
            @inductionHypothesis current (previous :: before) others
          refine ⟨current :: more, later, ?_⟩
          rw [wordsFrom_of_continues here starts, whole, List.reverse_cons, List.append_assoc]
          rfl

/-- Two words of one letter do not follow each other. -/
def Apart (words : List (List Char)) : Prop :=
  words.IsChain fun word next => ¬(isSingleLetter word = true ∧ isSingleLetter next = true)

/-- A letter that stands alone begins no word behind a letter that stands alone, for the small
letter that it would take to begin one there stands in the same word. -/
theorem not_isSingleLetter_of_starts (opens : Opens previous)
    (kept : ∀ character ∈ rest, isAlphanumeric character = true)
    (characters : ∀ character ∈ rest, Opens character ∨ Follows character)
    (alone : isAlphabetic previous = true)
    (starts : startsWord previous current rest.head? = true) {word : List Char}
    (next : (wordsFrom [current] rest).head? = some word) : isSingleLetter word = false := by
  have letter {character : Char} (alphabetic : isAlphabetic character = true) :
      (isAscii character && character.isDigit) = false :=
    Bool.eq_false_iff.mpr fun numeral => by
      rw [(not_letter_of_isNumeral numeral).1] at alphabetic
      cases alphabetic
  rw [startsWord, opens.plain, letter alone, Bool.false_and, Bool.false_and, Bool.false_or,
    Bool.false_or, Bool.and_eq_true] at starts
  cases rest with
  | nil => cases starts.2
  | cons following rest =>
      have small : isLowercase following = true := starts.2
      have follows : Follows following :=
        (characters following List.mem_cons_self).resolve_left fun opens => by
          rw [opens.plain] at small
          cases small
      refine Bool.eq_false_iff.mpr fun single => ?_
      obtain ⟨only, rfl, alphabetic⟩ := exists_of_isSingleLetter single
      obtain ⟨here, others⟩ := List.forall_mem_cons.mp kept
      obtain ⟨more, later, begins⟩ := @exists_wordsFrom current [] (following :: rest) kept
      rw [begins] at next
      obtain ⟨rfl, rfl⟩ := List.cons.inj (Option.some.inj next)
      have continues : startsWord current following rest.head? = false :=
        startsWord_of_follows follows (fun numeral => by
          rw [(not_letter_of_isNumeral numeral).1] at alphabetic
          cases alphabetic) _
      obtain ⟨longer, _, long⟩ := @exists_wordsFrom following [current] rest others
      rw [wordsFrom_of_continues here continues, long] at begins
      cases begins

/-- In the name of a type, words of one letter do not follow each other. -/
theorem wordsFrom_apart (kept : ∀ character ∈ rest, isAlphanumeric character = true)
    (joints : (previous :: rest).IsChain fun previous current =>
      Opens current ∨ ∀ next, startsWord previous current next = false)
    (characters : ∀ character ∈ rest, Opens character ∨ Follows character)
    (opens : before = [] → Opens previous) : Apart (wordsFrom (previous :: before) rest) := by
  induction rest generalizing previous before with
  | nil => exact .singleton _
  | cons current rest inductionHypothesis =>
      obtain ⟨here, others⟩ := List.forall_mem_cons.mp kept
      obtain ⟨joint, inner⟩ := List.isChain_cons_cons.mp joints
      have ahead := (List.forall_mem_cons.mp characters).2
      cases starts : startsWord previous current rest.head? with
      | true =>
          have opensNext : Opens current := joint.resolve_right fun never => by
            rw [never] at starts
            cases starts
          rw [wordsFrom_of_starts here starts]
          refine List.isChain_cons.mpr
            ⟨fun word next => ?_, inductionHypothesis others inner ahead fun _ => opensNext⟩
          rintro ⟨single, singleNext⟩
          obtain ⟨only, whole, alone⟩ := exists_of_isSingleLetter single
          obtain ⟨rfl, rfl⟩ : before = [] ∧ previous = only := by
            rw [List.reverse_eq_iff] at whole
            exact ⟨(List.cons.inj whole).2, (List.cons.inj whole).1⟩
          rw [not_isSingleLetter_of_starts (opens rfl) others ahead alone starts next] at singleNext
          cases singleNext
      | false =>
          rw [wordsFrom_of_continues here starts]
          exact inductionHypothesis others inner ahead nofun

end Words

section Merged

variable {words : List (List Char)}

/-- Where single letters stand apart, nothing is merged. -/
theorem mergeLetters_of_apart (apart : Apart words) (nonempty : ∀ word ∈ words, word ≠ []) :
    mergeLetters words = words := by
  induction words with
  | nil => rfl
  | cons word words inductionHypothesis =>
      obtain ⟨here, others⟩ := List.forall_mem_cons.mp nonempty
      obtain ⟨joint, inner⟩ := List.isChain_cons.mp apart
      have later := inductionHypothesis inner others
      have run : letters? word = [word] := by rw [letters?, if_neg (by simpa using here)]
      unfold mergeLetters mergeFrom
      split
      · next single =>
        cases words with
        | nil => exact run
        | cons next words =>
            have long : isSingleLetter next = false :=
              Bool.eq_false_iff.mpr fun singleNext => joint next rfl ⟨single, singleNext⟩
            rw [mergeLetters, mergeFrom, if_neg (by rw [long]; decide)] at later
            rw [List.nil_append, mergeFrom, if_neg (by rw [long]; decide), run]
            exact congrArg (word :: ·) later
      · exact congrArg (word :: ·) later

/-- A word of more than one letter is not merged. -/
theorem mem_mergeFrom {word letters : List Char} (long : isSingleLetter word = false)
    (member : word ∈ words) : word ∈ mergeFrom letters words := by
  induction words generalizing letters with
  | nil => cases member
  | cons first words inductionHypothesis =>
      unfold mergeFrom
      rcases List.mem_cons.mp member with rfl | later
      · rw [if_neg (by rw [long]; decide)]
        exact List.mem_append_right _ List.mem_cons_self
      · split
        · exact inductionHypothesis later
        · exact List.mem_append_right _ (List.mem_cons_of_mem _ (inductionHypothesis later))

/-- Merged words begin with a character that opens words. -/
theorem mergeFrom_led {letters : List Char} (run : letters = [] ∨ Led letters)
    (each : ∀ word ∈ words, Led word) : ∀ word ∈ mergeFrom letters words, Led word := by
  have alone {letters : List Char} (run : letters = [] ∨ Led letters) (word : List Char)
      (member : word ∈ letters? letters) : Led word := by
    obtain ⟨rfl, nonempty⟩ := mem_letters? member
    exact run.resolve_left nonempty
  induction words generalizing letters with
  | nil => exact alone run
  | cons first words inductionHypothesis =>
      obtain ⟨here, others⟩ := List.forall_mem_cons.mp each
      intro word member
      unfold mergeFrom at member
      split at member
      · refine inductionHypothesis (.inr ?_) others word member
        rcases run with rfl | ⟨start, tail, rfl, opens⟩
        · exact here
        · exact ⟨start, tail ++ first, rfl, opens⟩
      · rcases List.mem_append.mp member with before | after
        · exact alone run word before
        · rcases List.mem_cons.mp after with rfl | later
          · exact here
          · exact inductionHypothesis (.inl rfl) others word later

end Merged

section Capitalized

/-- Characters of names of types keep their number in lower case. -/
theorem length_lowerFrom {letters : List Char}
    (characters : ∀ letter ∈ letters, Opens letter ∨ Follows letter) (before : List Char) :
    (lowerFrom before letters).length = letters.length := by
  induction letters generalizing before with
  | nil => rfl
  | cons letter letters inductionHypothesis =>
      obtain ⟨here, others⟩ := List.forall_mem_cons.mp characters
      rw [lowerFrom, List.length_append, inductionHypothesis others, List.length_cons, Nat.add_comm]
      congr 1
      split
      · rfl
      · rcases here with ⟨⟨small, single, -⟩, -, -⟩ | follows
        · rw [single]
          rfl
        · rw [follows.settled]
          rfl

/-- Small letters stay as they are in lower case. -/
theorem lowerFrom_of_settled {letters : List Char}
    (settled : ∀ letter ∈ letters, lowerChar letter = [letter]) (before : List Char) :
    lowerFrom before letters = letters := by
  induction letters generalizing before with
  | nil => rfl
  | cons letter letters inductionHypothesis =>
      obtain ⟨here, others⟩ := List.forall_mem_cons.mp settled
      have other : letter ≠ 'Σ' := by
        rintro rfl
        exact absurd here (by decide +kernel)
      rw [lowerFrom, if_neg other, here, inductionHypothesis others]
      rfl

/-- A word that begins with a capital keeps it. -/
theorem capitalize_of_opens {first : Char} (opens : Opens first) (tail : List Char) :
    capitalize (first :: tail) = first :: lowerFrom [first] tail := by
  obtain ⟨small, lowers, raises⟩ := opens.capital
  rw [capitalize, lower, lowerFrom_nil_cons, lowers]
  dsimp only [List.cons_append]
  rw [raises]
  rfl

/-- A word that begins well stays as it is exactly if it goes on in small letters. -/
theorem capitalize_eq_iff {word : List Char} (led : Led word) :
    capitalize word = word ↔ ∀ letter ∈ word.tail, lowerChar letter = [letter] := by
  obtain ⟨first, tail, rfl, opens⟩ := led
  rw [capitalize_of_opens opens, List.cons.injEq, List.tail_cons]
  constructor
  · rintro ⟨-, same⟩ letter member
    rw [← same] at member
    exact settled_of_mem_lowerFrom member
  · exact fun settled => ⟨rfl, lowerFrom_of_settled settled [first]⟩

/-- A word of a name of a type keeps its length when it is capitalized. -/
theorem length_capitalize {word : List Char} (led : Led word)
    (characters : ∀ letter ∈ word, Opens letter ∨ Follows letter) :
    (capitalize word).length = word.length := by
  obtain ⟨first, tail, rfl, opens⟩ := led
  rw [capitalize_of_opens opens, List.length_cons, List.length_cons,
    length_lowerFrom (List.forall_mem_cons.mp characters).2]

/-- Words of unchanged lengths that are together unchanged are each unchanged. -/
theorem capitalize_eq_of_flatMap_eq {words : List (List Char)}
    (lengths : ∀ word ∈ words, (capitalize word).length = word.length)
    (same : words.flatMap capitalize = words.flatten) : ∀ word ∈ words, capitalize word = word := by
  induction words with
  | nil => exact List.forall_mem_nil _
  | cons word words inductionHypothesis =>
      obtain ⟨here, others⟩ := List.forall_mem_cons.mp lengths
      rw [List.flatMap_cons, List.flatten_cons] at same
      obtain ⟨first, rest⟩ := List.append_inj same here
      exact List.forall_mem_cons.mpr ⟨first, inductionHypothesis others rest⟩

end Capitalized

namespace Derived

variable {text : List Char}

/-- A name of a type has letters and digits only. -/
theorem kept (derived : Derived text) : ∀ character ∈ text, isAlphanumeric character = true :=
  fun character member => (derived.characters character member).elim (·.kept) (·.kept)

/-- The words of a name of a type make up all of it. -/
theorem flatten_words (derived : Derived text) : (mergeLetters (words text)).flatten = text := by
  rw [mergeLetters_flatten, List.filter_eq_self.mpr derived.kept]

/-- The first character of a name of a type opens its first word. -/
theorem words_eq {first : Char} {rest : List Char} (derived : Derived (first :: rest)) :
    words (first :: rest) = wordsFrom [first] rest := by
  rw [words, wordsFrom, derived.kept first List.mem_cons_self]
  rfl

/-- The words of a name of a type begin well, and no two of them in a row are single letters. -/
theorem words_led (derived : Derived text) :
    (∀ word ∈ words text, Led word) ∧ Apart (words text) := by
  cases text with
  | nil => exact ⟨List.forall_mem_nil _, .nil⟩
  | cons first rest =>
      have opens := derived.begins first rfl
      have kept := (List.forall_mem_cons.mp derived.kept).2
      rw [derived.words_eq]
      exact ⟨wordsFrom_led kept derived.joints ⟨first, [], rfl, opens⟩,
        wordsFrom_apart kept derived.joints (List.forall_mem_cons.mp derived.characters).2
          fun _ => opens⟩

/-- The words of a name of a type go on in small letters if its capitals begin words. -/
theorem settled_iff (derived : Derived text) :
    (∀ word ∈ words text, ∀ letter ∈ word.tail, lowerChar letter = [letter]) ↔
      capitalsBegin text = true := by
  cases text with
  | nil => exact ⟨fun _ => rfl, fun _ => List.forall_mem_nil _⟩
  | cons first rest =>
      rw [derived.words_eq, settled_iff_capitalsBegin (List.forall_mem_cons.mp derived.kept).2]
      exact ⟨fun settled => settled.2, fun begin => ⟨List.forall_mem_nil _, begin⟩⟩

/-- Capitalizing the words again changes nothing exactly if they go on in small letters. -/
theorem capitalized_iff (derived : Derived text) :
    (mergeLetters (words text)).flatMap capitalize = text ↔
      ∀ word ∈ words text, ∀ letter ∈ word.tail, lowerChar letter = [letter] := by
  obtain ⟨led, apart⟩ := derived.words_led
  constructor
  · intro same word inside letter member
    have merged := mergeFrom_led (.inl rfl) led
    have lengths (word : List Char) (inside : word ∈ mergeLetters (words text)) :
        (capitalize word).length = word.length := by
      refine length_capitalize (merged word inside) fun letter member => ?_
      refine derived.characters letter ?_
      rw [← derived.flatten_words]
      exact List.mem_flatten.mpr ⟨word, inside, member⟩
    have stays := capitalize_eq_of_flatMap_eq lengths (same.trans derived.flatten_words.symm)
    have long : isSingleLetter word = false := Bool.eq_false_iff.mpr fun single => by
      obtain ⟨only, rfl, -⟩ := exists_of_isSingleLetter single
      cases member
    exact (capitalize_eq_iff (led word inside)).mp (stays word (mem_mergeFrom long inside)) letter
      member
  · intro settled
    have nonempty (word : List Char) (inside : word ∈ words text) : word ≠ [] := by
      obtain ⟨first, tail, rfl, -⟩ := led word inside
      exact List.cons_ne_nil _ _
    have whole := derived.flatten_words
    rw [mergeLetters_of_apart apart nonempty] at whole ⊢
    rw [List.flatMap_congr fun word inside =>
      (capitalize_eq_iff (led word inside)).mpr (settled word inside), List.flatMap_id', whole]

end Derived

/-- The name of a type makes itself exactly if each of its capitals begins a word where it stands,
for a capital that is read within a word becomes a small letter. -/
theorem ofName_ofName_iff {name : String}
    (paired : ∀ character ∈ name.toList, isAlphanumeric character = true →
      isAscii character = true ∨ Paired character) :
    ofName (ofName name) = ofName name ↔ capitalsBegin (ofName name).toList = true := by
  have derived := derived_ofName fun character member alphanumeric =>
    (paired character member alphanumeric).elim (paired_of_isAscii · alphanumeric) id
  rw [← derived.settled_iff, ← derived.capitalized_iff, ← String.toList_inj]
  conv_lhs => rw [ofName, String.toList_ofList]

/-- Letters beyond ASCII, an acronym and a final sigma make no difference. -/
theorem ofName_ofName_iff_finalSigma :
    (∀ character ∈ "XMLHttp_v2 été ΛΌΓΟΣ".toList, isAlphanumeric character = true →
      isAscii character = true ∨ Paired character) ∧
    ofName "XMLHttp_v2 été ΛΌΓΟΣ" = "XmlHttpV2ÉtéΛόγος" ∧
    ofName "XmlHttpV2ÉtéΛόγος" = "XmlHttpV2ÉtéΛόγος" := by
  have paired : ∀ character ∈ "XMLHttp_v2 été ΛΌΓΟΣ".toList, isAlphanumeric character = true →
      isAscii character = true ∨ Paired character := by
    have all : ("XMLHttp_v2 été ΛΌΓΟΣ".toList.all fun character =>
        isAscii character || decide (Paired character)) = true := by decide +kernel
    intro character member _
    have here := List.all_eq_true.mp all character member
    exact (Bool.or_eq_true_iff.mp here).imp_right of_decide_eq_true
  have made : ofName "XMLHttp_v2 été ΛΌΓΟΣ" = "XmlHttpV2ÉtéΛόγος" := by decide +kernel
  have again := (ofName_ofName_iff paired).mpr (by rw [made]; decide +kernel)
  rw [made] at again
  exact ⟨paired, made, again⟩

/-- A single letter before a letter with a digit makes two capitals before the digit, which are read
as one word. -/
theorem letterBeforeDigit_rederived :
    ofName "a_b1" = "AB1" ∧ ofName (ofName "a_b1") = "Ab1" ∧
      ofName (ofName "a_b1") ≠ ofName "a_b1" := by
  decide +kernel

end SchemaTypes.Identifier
