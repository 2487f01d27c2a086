import Dynaxis.Shared.Bytes
import Mathlib.Data.List.TakeWhile
import Mathlib.Data.String.Basic

namespace Dynaxis.Shared

open List Nat

universe u

section

variable {α : Type u} [DecidableEq α] (mark line : α)

def writeEntry (entry : List α × List α) : List α := entry.1 ++ mark :: entry.2

def writeEntries (entries : List (List α × List α)) : List α :=
 [line].intercalate (entries.map (writeEntry mark))

def readEntry (text : List α) : Option (List α × List α) :=
 if mark ∈ text then some (text.takeWhile (· ≠ mark), (text.dropWhile (· ≠ mark)).tail)
 else none

def readEntries (text : List α) : List (List α × List α) :=
 (text.splitOn line).filterMap (readEntry mark)

abbrev Separable (entry : List α × List α) : Prop :=
 mark ∉ entry.1 /\ line ∉ entry.1 /\ line ∉ entry.2

variable {mark line}

theorem readEntry_writeEntry {entry : List α × List α} (unmarked : mark ∉ entry.1) :
  readEntry mark (writeEntry mark entry) = some entry := by
 have plain : ∀ letter ∈ entry.1, (decide (letter ≠ mark)) = true := by
  intro letter member
  exact decide_eq_true fun same => unmarked (same ▸ member)
 rw [readEntry, writeEntry, if_pos (by simp), takeWhile_append_of_pos plain, dropWhile_append_of_pos plain]
 simp

theorem readEntry_of_mem {text : List α} (marked : mark ∈ text) :
  ∃ entry, readEntry mark text = some entry /\ text = writeEntry mark entry /\ mark ∉ entry.1 := by
 obtain ⟨before, after, rfl, unmarked⟩ := eq_append_cons_of_mem marked
 have read : readEntry mark (writeEntry mark (before, after)) = some (before, after) := readEntry_writeEntry unmarked
 exact ⟨(before, after), read, rfl, unmarked⟩

omit [DecidableEq α] in
theorem line_notMem_writeEntry (different : line ≠ mark) {entry : List α × List α}
  (separable : Separable mark line entry) : line ∉ writeEntry mark entry := by
 simp [writeEntry, separable.2.1, separable.2.2, different]

theorem readEntries_writeEntries (different : line ≠ mark) {entries : List (List α × List α)}
  (separable : ∀ entry ∈ entries, Separable mark line entry) :
  readEntries mark line (writeEntries mark line entries) = entries := by
 cases entries with
 | nil => simp [readEntries, writeEntries, readEntry]
 | cons first rest =>
  have plain : ∀ text ∈ (first :: rest).map (writeEntry mark), line ∉ text := by
   intro text member
   obtain ⟨entry, among, rfl⟩ := mem_map.mp member
   exact line_notMem_writeEntry different (separable entry among)
  rw [readEntries, writeEntries, splitOn_intercalate line plain (by simp), filterMap_map]
  refine (filterMap_congr fun entry among => ?_).trans filterMap_some
  exact readEntry_writeEntry (separable entry among).1

theorem writeEntries_injective (different : line ≠ mark) {left right : List (List α × List α)}
  (separableLeft : ∀ entry ∈ left, Separable mark line entry)
  (separableRight : ∀ entry ∈ right, Separable mark line entry)
  (same : writeEntries mark line left = writeEntries mark line right) : left = right := by
 rw [<- readEntries_writeEntries different separableLeft, same, readEntries_writeEntries different separableRight]

theorem notMem_of_mem_splitOn {text piece : List α} (member : piece ∈ text.splitOn line) : line ∉ piece := by
 induction text generalizing piece with
 | nil =>
  obtain rfl : piece = [] := by simpa using member
  exact not_mem_nil
 | cons letter rest ih =>
  rw [splitOn_eq_splitOnP, splitOnP_cons_eq_if_modifyHead, <- splitOn_eq_splitOnP] at member
  obtain ⟨head, tail, split⟩ := exists_cons_of_ne_nil (splitOn_ne_nil line rest)
  by_cases separator : letter = line
  · rw [if_pos (by simpa using separator)] at member
    obtain rfl | later := mem_cons.mp member
    · exact not_mem_nil
    · exact ih later
  · rw [if_neg (by simpa using separator), split, modifyHead_cons] at member
    obtain rfl | later := mem_cons.mp member
    · rw [mem_cons, not_or]
      exact ⟨Ne.symm separator, ih (split ▸ mem_cons_self)⟩
    · exact ih (split ▸ mem_cons_of_mem _ later)

theorem separable_of_mem_readEntries {text : List α} {entry : List α × List α}
  (member : entry ∈ readEntries mark line text) : Separable mark line entry := by
 obtain ⟨piece, among, read⟩ := mem_filterMap.mp member
 have clean : line ∉ piece := notMem_of_mem_splitOn among
 obtain ⟨-, ⟨⟩⟩ := Option.ite_none_right_eq_some.mp read
 refine ⟨fun inside => ?_, fun inside => clean ?_, fun inside => clean ?_⟩
 · simpa using mem_takeWhile_imp inside
 · exact (takeWhile_sublist _).subset inside
 · exact (dropWhile_sublist _).subset (mem_of_mem_tail inside)

end

section

variable {α : Type u} {separator : List α} {letter : α}

theorem mem_intercalate_of_mem {texts : List (List α)} {text : List α} (member : text ∈ texts)
  (inside : letter ∈ text) : letter ∈ separator.intercalate texts := by
 induction texts with
 | nil => cases member
 | cons first rest ih =>
  cases rest with
  | nil =>
   obtain rfl := mem_singleton.mp member
   simpa using inside
  | cons second others =>
   rw [intercalate_cons_cons, mem_append, mem_append]
   obtain rfl | later := mem_cons.mp member
   · exact .inl (.inl inside)
   · exact .inr (ih later)

theorem mem_of_mem_intercalate {texts : List (List α)} (member : letter ∈ separator.intercalate texts) :
  letter ∈ separator \/ ∃ text ∈ texts, letter ∈ text := by
 induction texts with
 | nil => cases member
 | cons first rest ih =>
  cases rest with
  | nil => exact .inr ⟨first, mem_cons_self, by simpa using member⟩
  | cons second others =>
   rw [intercalate_cons_cons, mem_append, mem_append] at member
   obtain (inside | between) | later := member
   · exact .inr ⟨first, mem_cons_self, inside⟩
   · exact .inl between
   · exact (ih later).imp_right fun ⟨text, among, inside⟩ => ⟨text, mem_cons_of_mem _ among, inside⟩

end

section

variable {α : Type u} (mark line : α)

theorem writeEntries_cons (entry : List α × List α) (rest : List (List α × List α)) :
  ∃ tail, writeEntries mark line (entry :: rest) = entry.1 ++ mark :: (entry.2 ++ tail) /\
   (mark ∉ tail -> rest = [] /\ tail = []) := by
 cases rest with
 | nil => exact ⟨[], by simp [writeEntries, writeEntry], fun _ => ⟨rfl, rfl⟩⟩
 | cons second others =>
  refine ⟨line :: writeEntries mark line (second :: others), by simp [writeEntries, writeEntry], fun unmarked => ?_⟩
  refine absurd (mem_cons_of_mem _ (mem_intercalate_of_mem (mem_map_of_mem mem_cons_self) ?_)) unmarked
  simp [writeEntry]

end

abbrev Text := List Char

namespace Text

def isSpace (letter : Char) : Bool := letter = ' ' || ('\t' ≤ letter && letter ≤ '\r')

def trimLeft (text : Text) : Text := text.dropWhile isSpace

def trim (text : Text) : Text := (trimLeft (trimLeft text).reverse).reverse

def toLower (text : Text) : Text := text.map Char.toLower

def splitCsv (text : Text) : List Text := ((text.splitOn ',').map trim).filter (· ≠ [])

def joinCsv (texts : List Text) : Text := [','].intercalate texts

def decimal (value : Nat) : Text := (Nat.repr value).toList

theorem trim_sublist (text : Text) : (trim text).Sublist text := by
 have right := (dropWhile_sublist isSpace : (trimLeft (trimLeft text).reverse).Sublist _).reverse
 rw [reverse_reverse] at right
 exact right.trans (dropWhile_sublist _)

variable {text : Text}

theorem trimLeft_eq_self (solid : ∀ letter ∈ text, isSpace letter = false) : trimLeft text = text := by
 cases text with
 | nil => rfl
 | cons letter rest => simp [trimLeft, solid letter mem_cons_self]

theorem trim_eq_self (solid : ∀ letter ∈ text, isSpace letter = false) : trim text = text := by
 rw [trim, trimLeft_eq_self solid, trimLeft_eq_self, reverse_reverse]
 intro letter member
 exact solid letter (mem_reverse.mp member)

abbrev OneLine (text : Text) : Prop := '\n' ∉ text

theorem OneLine.sublist {part : Text} (oneLine : OneLine text) (sublist : part.Sublist text) : OneLine part :=
 fun member => oneLine (sublist.subset member)

theorem OneLine.trim (oneLine : OneLine text) : OneLine (trim text) :=
 oneLine.sublist (trim_sublist text)

theorem OneLine.of_mem_splitCsv {piece : Text} (oneLine : OneLine text)
  (member : piece ∈ splitCsv text) : OneLine piece := by
 obtain ⟨whole, split, rfl⟩ := mem_map.mp (mem_filter.mp member).1
 refine trim fun inside => oneLine ?_
 have joined : [','].intercalate (text.splitOn ',') = text := intercalate_splitOn ','
 rw [<- joined]
 exact mem_intercalate_of_mem split inside

theorem oneLine_joinCsv {texts : List Text} (oneLine : ∀ text ∈ texts, OneLine text) : OneLine (joinCsv texts) := by
 intro member
 obtain comma | ⟨text, among, inside⟩ := mem_of_mem_intercalate member
 · exact absurd (mem_singleton.mp comma) (by decide)
 · exact oneLine text among inside

theorem oneLine_decimal (value : Nat) : OneLine (decimal value) := by
 intro member
 rw [decimal, toList_repr] at member
 exact absurd (isDigit_of_mem_toDigits (by decide) (by decide) member) (by decide)

theorem decimal_injective : Function.Injective decimal := by
 refine Function.LeftInverse.injective (g := fun text => ofDigitChars 10 text 0) fun value => ?_
 rw [decimal, toList_repr]
 exact ofDigitChars_ten_toDigits

end Text

def hexDigit (value : Nat) : Char := "0123456789abcdef".toList.getD value '0'

def toHex (bytes : Bytes) : Text :=
 bytes.flatMap fun byte => [hexDigit (byte.toNat / 16), hexDigit (byte.toNat % 16)]

theorem hexDigit_injective {left right : Nat} (boundLeft : left < 16) (boundRight : right < 16)
  (same : hexDigit left = hexDigit right) : left = right := by
 have all : ∀ left < 16, ∀ right < 16, hexDigit left = hexDigit right -> left = right := by decide
 exact all left boundLeft right boundRight same

theorem toHex_injective : Function.Injective toHex := by
 intro left
 induction left with
 | nil =>
  rintro (_ | ⟨byte, rest⟩) same
  · rfl
  · cases same
 | cons byte rest ih =>
  rintro (_ | ⟨other, tail⟩) same
  · cases same
  · simp only [toHex, flatMap_cons, cons_append, nil_append, cons.injEq] at same
    obtain ⟨high, low, later⟩ := same
    have bound := byte.toNat_lt
    have otherBound := other.toNat_lt
    have upper := hexDigit_injective (by omega) (by omega) high
    have lower := hexDigit_injective (by omega) (by omega) low
    have bytes : byte = other := UInt8.toNat_inj.mp (by omega)
    rw [bytes, ih later]

abbrev Hmac := Text -> Text -> Option Bytes

def Hmac.CollisionFree (hmac : Hmac) : Prop :=
 ∀ secret left right digest,
  hmac secret left = some digest -> hmac secret right = some digest -> left = right

end Dynaxis.Shared
