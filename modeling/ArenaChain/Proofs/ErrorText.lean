import ArenaChain.Proofs.Account
import Mathlib

/-!
# What the text of an error tells

The text of an error is a sentence of words with blanks between them.  No word has a blank in
it, a number least of all, so the sentence can be taken apart into its words again
(`eq_of_intercalate_blank_eq`).  The words that are not numbers tell the kind of the error, and
the others its numbers (`words_eq_iff`).

Errors about handles of different widths have the same text if they are of the same kind and
have the same numbers (`message_eq_iff`).  Errors about handles of one width have the same
text only if they are the same (`text_tells_error`).
-/

namespace ArenaChain

private theorem blank_not_mem_digits (number : Nat) : ' ' ∉ Nat.toDigits 10 number := by
  intro member
  have digit := Nat.isDigit_of_mem_toDigits (by decide) (by decide) member
  cases digit

/-- Words without blanks are told apart by the blanks between them. -/
theorem eq_of_intercalate_blank_eq {words others : List String} (named : words ≠ [])
    (namedToo : others ≠ []) (noBlank : ∀ word ∈ words, ' ' ∉ word.toList)
    (noBlankToo : ∀ word ∈ others, ' ' ∉ word.toList)
    (same : " ".intercalate words = " ".intercalate others) : words = others := by
  have apart {words : List String} (named : words ≠ [])
      (noBlank : ∀ word ∈ words, ' ' ∉ word.toList) :
      (" ".intercalate words).toList.splitOn ' ' = words.map String.toList := by
    rw [String.toList_intercalate]
    exact List.splitOn_intercalate ' ' (by simpa using noBlank) (by simpa using named)
  have sameLetters : words.map String.toList = others.map String.toList := by
    rw [← apart named noBlank, same, apart namedToo noBlankToo]
  exact (List.map_inj_right fun _ _ => String.toList_inj.mp).mp sameLetters

namespace ChainError

variable {v w width : Nat}

/-- The text of an error, word by word. -/
def words : ChainError width → List String
  | overCapacity capacity required =>
    ["buffer", "capacity", toString capacity, "cannot", "hold", toString required, "nodes"]
  | endsEarly declared found =>
    ["chain", "declared", toString declared, "nodes", "but", "ended", "after", toString found]
  | runsOn declared =>
    ["chain", "declared", toString declared, "nodes", "but", "continues", "past", "them"]
  | absent handle =>
    ["index", toString handle.toNat, "is", "not", "present", "in", "storage"]
  | repeated handle => ["index", toString handle.toNat, "appears", "more", "than", "once"]

/-- The numbers that show what is wrong, in the order of the text. -/
def numbers : ChainError width → List Nat
  | overCapacity capacity required => [capacity, required]
  | endsEarly declared found => [declared, found]
  | runsOn declared => [declared]
  | absent handle | repeated handle => [handle.toNat]

theorem message_eq_intercalate (error : ChainError width) :
    error.message = " ".intercalate error.words := by
  unfold message
  apply String.toList_inj.mp
  cases error <;> simp [words, toString]

theorem words_ne_nil (error : ChainError width) : error.words ≠ [] := by
  cases error <;> simp [words]

theorem blank_not_mem_word (error : ChainError width) :
    ∀ word ∈ error.words, ' ' ∉ word.toList := by
  cases error <;> simp [words, blank_not_mem_digits]

/-- Each kind of error has its own words, beside those that are numbers. -/
theorem words_eq_iff {first : ChainError v} {second : ChainError w} :
    first.words = second.words ↔ first.label = second.label ∧ first.numbers = second.numbers := by
  cases first <;> cases second <;> simp [words, label, numbers]

theorem message_eq_iff {first : ChainError v} {second : ChainError w} :
    first.message = second.message ↔
      first.label = second.label ∧ first.numbers = second.numbers := by
  rw [message_eq_intercalate, message_eq_intercalate, ← words_eq_iff]
  constructor
  · exact eq_of_intercalate_blank_eq first.words_ne_nil second.words_ne_nil
      first.blank_not_mem_word second.blank_not_mem_word
  · exact congrArg _

theorem eq_iff_numbers {first second : ChainError width} :
    first = second ↔ first.label = second.label ∧ first.numbers = second.numbers := by
  cases first <;> cases second <;> simp [label, numbers, Handle.toNat_inj]

/-- The text of an error tells the error, with all its numbers. -/
theorem message_inj {first second : ChainError width} :
    first.message = second.message ↔ first = second := by
  rw [message_eq_iff, eq_iff_numbers]

end ChainError

namespace Chain

variable {σ α : Type} {v width : Nat} [Store σ width α] [Linked α width]

theorem rejectionRecord_inj {first second : ChainError width} :
    rejectionRecord first = rejectionRecord second ↔ first = second := by
  simp [rejectionRecord, ChainError.message_inj]

/-- The log of a rebuild has a rejection with the text of an error exactly if this error is
what the rebuild returns. -/
theorem rejectionRecord_mem_logged_rebuild_iff {error : ChainError width} (head : Handle width)
    (count : Nat) (buffer : OrderBuffer width) (store : σ) :
    rejectionRecord error ∈ logged (.downTo .trace) (rebuild head count buffer store).events ↔
      (rebuild head count buffer store).result = .error error := by
  have rejections := filter_logged_rebuild isRejection head count buffer store rfl fun _ => rfl
  have kept : rejectionRecord error ∈
        logged (.downTo .trace) (rebuild head count buffer store).events ↔
      rejectionRecord error ∈
        (logged (.downTo .trace) (rebuild head count buffer store).events).filter isRejection := by
    simp [List.mem_filter, show isRejection (rejectionRecord error) = true from rfl]
  rw [kept, rejections]
  cases (rebuild head count buffer store).result with
  | error returned =>
      have told : [resultRecord count (.error returned : Except _ (Handle width))].filter
          isRejection = [rejectionRecord returned] := rfl
      rw [told, List.mem_singleton, rejectionRecord_inj, Except.error.injEq, eq_comm]
  | ok newHead =>
      have silent : [resultRecord count (.ok newHead)].filter isRejection = [] := rfl
      simp [silent]

/-- Errors have the same text exactly if they are the same; about handles of another width,
exactly if they are of the same kind and have the same numbers.  So a rejection in the log of
a rebuild tells which error was returned. -/
theorem text_tells_error (first second : ChainError width) (other : ChainError v)
    (head : Handle width) (count : Nat) (buffer : OrderBuffer width) (store : σ) :
    (first.message = second.message ↔ first = second) ∧
      (first.message = other.message ↔
        first.label = other.label ∧ first.numbers = other.numbers) ∧
      (rejectionRecord first ∈
          logged (.downTo .trace) (rebuild head count buffer store).events ↔
        (rebuild head count buffer store).result = .error first) :=
  ⟨ChainError.message_inj, ChainError.message_eq_iff,
    rejectionRecord_mem_logged_rebuild_iff head count buffer store⟩

end Chain

end ArenaChain
