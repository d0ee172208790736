import Mathlib.Data.List.Forall2
import VtFerry.Foundation.Execution
import VtFerry.Foundation.FiniteMap
import VtFerry.Shim.CoreFoundation

/-!
# Dictionaries are finite maps

A dictionary of the shim is two vectors, of its keys and of its values, that
belong together by position.  `CFDictionarySetValue` writes or appends to them
and `CVBufferRemoveAttachment` removes a position from both.  Through every
sequence of calls, on any number of dictionaries, each one answers lookups as
the finite map made by the same calls.  The calls are written once, over any
kind of dictionary.
-/

namespace VtFerry.CoreFoundation

open Execution List

/-- The vectors of `vtf_cf_dictionary`.  An index beyond the values would
panic in the source; `Sound` excludes it. -/
structure VtfCfDictionary where
  keys : List CFTypeRef
  values : List CFTypeRef
  deriving DecidableEq, Repr

namespace VtfCfDictionary

def findIndex (dictionary : VtfCfDictionary) (key : CFTypeRef) : Option Nat :=
  dictionary.keys.findIdx? (· = key)

def setValue (key value : CFTypeRef) (dictionary : VtfCfDictionary) :
    VtfCfDictionary :=
  match dictionary.findIndex key with
  | some index =>
    { dictionary with values := dictionary.values.set index value }
  | none => ⟨dictionary.keys ++ [key], dictionary.values ++ [value]⟩

/-- What `CVBufferRemoveAttachment` does to the attachments. -/
def removeKey (key : CFTypeRef) (dictionary : VtfCfDictionary) :
    VtfCfDictionary :=
  match dictionary.findIndex key with
  | some index =>
    ⟨dictionary.keys.eraseIdx index, dictionary.values.eraseIdx index⟩
  | none => dictionary

def valueOf (dictionary : VtfCfDictionary) (key : CFTypeRef) :
    Option CFTypeRef :=
  (dictionary.findIndex key).bind (dictionary.values[·]?)

def getValue (dictionary : VtfCfDictionary) (key : CFTypeRef) : CFTypeRef :=
  (dictionary.valueOf key).getD .null

/-- The result, and what is written through the pointer, if anything. -/
def getValueIfPresent (dictionary : VtfCfDictionary) (key : CFTypeRef) :
    Bool × Option CFTypeRef :=
  let found := dictionary.getValue key
  if found = .null then (false, none) else (true, some found)

def containsKey (dictionary : VtfCfDictionary) (key : CFTypeRef) : Bool :=
  (dictionary.findIndex key).isSome

end VtfCfDictionary

/-! ## Calls -/

/-- A value that is not null. -/
abbrev Value := { value : CFTypeRef // value ≠ .null }

/-- Dictionaries are numbered as they are created.  The attachments of a
buffer are a dictionary made by `CFDictionaryCreateMutable`, and
`CVBufferSetAttachment` is `CFDictionarySetValue` on it. -/
inductive DictionaryCall
  | createMutable
  | setValue (dictionary : Nat) (key : CFTypeRef) (value : Value)
  | createCopy (dictionary : Nat)
  | removeAttachment (attachments : Nat) (key : CFTypeRef)

/-- The dictionary a call changes. -/
def DictionaryCall.target : DictionaryCall → Option Nat
  | .setValue number _ _ | .removeAttachment number _ => some number
  | _ => none

/-- A kind of dictionary: the empty one, setting and removing a key. -/
structure DictionaryKind (Dictionary : Type) where
  empty : Dictionary
  setValue : CFTypeRef → CFTypeRef → Dictionary → Dictionary
  removeKey : CFTypeRef → Dictionary → Dictionary

/-- A number without a dictionary stands for a reference that is null or not
a dictionary. -/
def DictionaryKind.step {Dictionary : Type} (kind : DictionaryKind Dictionary)
    (all : List Dictionary) : DictionaryCall → List Dictionary
  | .createMutable => all ++ [kind.empty]
  | .setValue number key value => all.modify number (kind.setValue key value)
  | .createCopy number => all ++ all[number]?.toList
  | .removeAttachment number key =>
    if key = .null then all else all.modify number (kind.removeKey key)

def vectors : DictionaryKind VtfCfDictionary where
  empty := ⟨[], []⟩
  setValue := VtfCfDictionary.setValue
  removeKey := VtfCfDictionary.removeKey

def maps : DictionaryKind (FiniteMap CFTypeRef CFTypeRef) where
  empty := ∅
  setValue key value map := map.insert key value
  removeKey key map := map.erase key

/-! ## One dictionary -/

namespace VtfCfDictionary

structure Sound (dictionary : VtfCfDictionary) : Prop where
  lengths : dictionary.keys.length = dictionary.values.length
  distinct : dictionary.keys.Nodup
  values : .null ∉ dictionary.values

variable {dictionary : VtfCfDictionary} {key value other : CFTypeRef}
variable {keys values : List CFTypeRef}

theorem findIndex_cons (first held : CFTypeRef) :
    findIndex ⟨first :: keys, held :: values⟩ key =
      if first = key then some 0
      else (findIndex ⟨keys, values⟩ key).map (· + 1) := by
  unfold findIndex
  rw [findIdx?_cons]
  simp

theorem valueOf_cons (first held : CFTypeRef) :
    valueOf ⟨first :: keys, held :: values⟩ other =
      if first = other then some held else valueOf ⟨keys, values⟩ other := by
  unfold valueOf
  rw [findIndex_cons]
  split
  · rfl
  · cases findIndex ⟨keys, values⟩ other with
    | none | some index => rfl

theorem setValue_cons (first held : CFTypeRef) :
    setValue key value ⟨first :: keys, held :: values⟩ =
      if first = key then ⟨first :: keys, value :: values⟩
      else ⟨first :: (setValue key value ⟨keys, values⟩).keys,
        held :: (setValue key value ⟨keys, values⟩).values⟩ := by
  unfold setValue
  rw [findIndex_cons]
  by_cases same : first = key
  · rw [if_pos same, if_pos same]
    rfl
  · rw [if_neg same, if_neg same]
    cases findIndex ⟨keys, values⟩ key with
    | none | some index => rfl

theorem removeKey_cons (first held : CFTypeRef) :
    removeKey key ⟨first :: keys, held :: values⟩ =
      if first = key then ⟨keys, values⟩
      else ⟨first :: (removeKey key ⟨keys, values⟩).keys,
        held :: (removeKey key ⟨keys, values⟩).values⟩ := by
  unfold removeKey
  rw [findIndex_cons]
  by_cases same : first = key
  · rw [if_pos same, if_pos same]
    rfl
  · rw [if_neg same, if_neg same]
    cases findIndex ⟨keys, values⟩ key with
    | none | some index => rfl

theorem findIndex_eq_none_iff : dictionary.findIndex key = none ↔ key ∉ dictionary.keys := by
  simp only [findIndex, findIdx?_eq_none_iff, decide_eq_false_iff_not]
  exact ⟨fun absent member => absent key member rfl,
    fun absent _ member same => absent (same ▸ member)⟩

theorem valueOf_setValue (lengths : keys.length = values.length) :
    (setValue key value ⟨keys, values⟩).valueOf other =
      if other = key then some value else valueOf ⟨keys, values⟩ other := by
  induction keys generalizing values with
  | nil =>
    obtain rfl := length_eq_zero_iff.mp lengths.symm
    exact (valueOf_cons key value).trans (by simp only [eq_comm])
  | cons first keys induction =>
    obtain ⟨held, values, rfl⟩ := exists_cons_of_length_eq_add_one lengths.symm
    rw [setValue_cons, valueOf_cons]
    split
    next here =>
      rw [valueOf_cons, here]
      by_cases same : key = other
      · rw [if_pos same, if_pos same.symm]
      · rw [if_neg same, if_neg (Ne.symm same), if_neg same]
    next elsewhere =>
      rw [valueOf_cons, induction (Nat.succ.inj lengths)]
      by_cases same : first = other
      · rw [if_pos same, if_pos same, if_neg (same ▸ elsewhere)]
      · rw [if_neg same, if_neg same]

theorem valueOf_removeKey (lengths : keys.length = values.length) (distinct : keys.Nodup) :
    (removeKey key ⟨keys, values⟩).valueOf other =
      if other = key then none else valueOf ⟨keys, values⟩ other := by
  induction keys generalizing values with
  | nil => exact (ite_self none).symm
  | cons first keys induction =>
    obtain ⟨held, values, rfl⟩ := exists_cons_of_length_eq_add_one lengths.symm
    obtain ⟨single, distinct⟩ := nodup_cons.mp distinct
    rw [removeKey_cons, valueOf_cons]
    split
    next here =>
      subst here
      by_cases same : other = first
      · rw [if_pos same, same, valueOf, findIndex_eq_none_iff.mpr single]
        rfl
      · rw [if_neg same, if_neg (Ne.symm same)]
    next elsewhere =>
      rw [valueOf_cons, induction (Nat.succ.inj lengths) distinct]
      by_cases same : first = other
      · rw [if_pos same, if_pos same, if_neg (same ▸ elsewhere)]
      · rw [if_neg same, if_neg same]

theorem Sound.setValue (sound : dictionary.Sound) (set : value ≠ .null) :
    (dictionary.setValue key value).Sound := by
  obtain ⟨lengths, distinct, values⟩ := sound
  unfold VtfCfDictionary.setValue
  split
  · refine ⟨?_, distinct, fun null => ?_⟩
    · rw [length_set, lengths]
    · rcases mem_or_eq_of_mem_set null with held | same
      · exact values held
      · exact set same.symm
  next absent =>
    refine ⟨?_, ?_, ?_⟩
    · rw [length_append, length_append, lengths]
      rfl
    · rw [← concat_eq_append]
      exact distinct.concat (findIndex_eq_none_iff.mp absent)
    · simp [values, set.symm]

theorem Sound.removeKey (sound : dictionary.Sound) (key : CFTypeRef) :
    (dictionary.removeKey key).Sound := by
  obtain ⟨lengths, distinct, values⟩ := sound
  unfold VtfCfDictionary.removeKey
  split
  · refine ⟨?_, distinct.eraseIdx _, fun null =>
      values (mem_of_mem_eraseIdx null)⟩
    rw [length_eraseIdx, length_eraseIdx, lengths]
  · exact ⟨lengths, distinct, values⟩

/-- The dictionary is sound and its lookups are those of the map. -/
structure Answers (dictionary : VtfCfDictionary)
    (map : FiniteMap CFTypeRef CFTypeRef) : Prop extends
    Sound dictionary where
  getValue : ∀ key, dictionary.getValue key = (map.lookup key).getD .null
  getValueIfPresent : ∀ key, dictionary.getValueIfPresent key =
    ((map.lookup key).isSome, map.lookup key)
  containsKey : ∀ key, dictionary.containsKey key = (map.lookup key).isSome

def Represents (dictionary : VtfCfDictionary) (map : FiniteMap CFTypeRef CFTypeRef) : Prop :=
  dictionary.Sound ∧ ∀ key, dictionary.valueOf key = map.lookup key

theorem Sound.valueOf_isSome (sound : dictionary.Sound) (key : CFTypeRef) :
    (dictionary.valueOf key).isSome = dictionary.containsKey key := by
  unfold valueOf VtfCfDictionary.containsKey
  cases found : dictionary.findIndex key with
  | none => rfl
  | some index =>
    have inside := (findIdx?_eq_some_iff_getElem.mp found).1
    rw [sound.lengths] at inside
    rw [Option.bind_some, getElem?_eq_getElem inside]
    rfl

theorem Represents.answers {map : FiniteMap CFTypeRef CFTypeRef}
    (represents : dictionary.Represents map) : dictionary.Answers map := by
  obtain ⟨sound, same⟩ := represents
  refine ⟨sound, ?_, ?_, ?_⟩
  · intro key
    rw [VtfCfDictionary.getValue, same]
  · intro key
    have held : dictionary.valueOf key ≠ some .null := by
      intro null
      obtain ⟨index, _, at_index⟩ := Option.bind_eq_some_iff.mp null
      exact sound.values (mem_of_getElem? at_index)
    rw [VtfCfDictionary.getValueIfPresent, VtfCfDictionary.getValue]
    rw [same] at held ⊢
    cases known : map.lookup key with
    | none => rfl
    | some value =>
      rw [known] at held
      exact if_neg fun null => held (congrArg some null)
  · intro key
    rw [← sound.valueOf_isSome, same]

end VtfCfDictionary

/-! ## All dictionaries -/

open VtfCfDictionary

section Forall

variable {Left Right : Type} {related : Left → Right → Prop}
variable {left : List Left} {right : List Right}

theorem forall₂_modify {act : Left → Left} {change : Right → Right}
    (alike : List.Forall₂ related left right)
    (acts : ∀ first second, related first second →
      related (act first) (change second)) (index : Nat) :
    List.Forall₂ related (left.modify index act) (right.modify index change) := by
  induction alike generalizing index with
  | nil =>
    rw [modify_nil, modify_nil]
    exact .nil
  | cons head tail induction =>
    cases index with
    | zero => exact .cons (acts _ _ head) tail
    | succ index => exact .cons head (induction index)

theorem forall₂_getElem? (alike : List.Forall₂ related left right) (index : Nat) :
    List.Forall₂ related left[index]?.toList right[index]?.toList := by
  induction alike generalizing index with
  | nil => exact .nil
  | cons head tail induction =>
    cases index with
    | zero => exact .cons head .nil
    | succ index => exact induction index

end Forall

variable {all : List VtfCfDictionary}

theorem step_represents {mapped : List (FiniteMap CFTypeRef CFTypeRef)}
    (represent : List.Forall₂ Represents all mapped) (call : DictionaryCall) :
    List.Forall₂ Represents (vectors.step all call) (maps.step mapped call) := by
  cases call with
  | createMutable =>
    have empty : Represents vectors.empty maps.empty :=
      ⟨⟨rfl, nodup_nil, not_mem_nil⟩, fun _ => rfl⟩
    exact rel_append represent (.cons empty .nil)
  | createCopy number => exact rel_append represent (forall₂_getElem? represent number)
  | setValue number key value =>
    refine forall₂_modify represent ?_ number
    rintro dictionary map ⟨sound, same⟩
    refine ⟨sound.setValue value.2, fun other => ?_⟩
    rw [maps, FiniteMap.lookup_insert_eq, ← same]
    exact valueOf_setValue sound.lengths
  | removeAttachment number key =>
    unfold DictionaryKind.step
    dsimp only
    split
    · exact represent
    · refine forall₂_modify represent ?_ number
      rintro dictionary map ⟨sound, same⟩
      refine ⟨sound.removeKey key, fun other => ?_⟩
      rw [maps, FiniteMap.lookup_erase_eq, ← same]
      exact valueOf_removeKey sound.lengths sound.distinct

theorem step_other {number : Nat} {call : DictionaryCall}
    (other : call.target ≠ some number) (known : number < all.length) :
    (vectors.step all call)[number]? = all[number]? := by
  cases call with
  | createMutable | createCopy source => exact getElem?_append_left known
  | setValue target key value =>
    have differs : target ≠ number := fun same => other (congrArg some same)
    simp [DictionaryKind.step, differs]
  | removeAttachment target key =>
    have differs : target ≠ number := fun same => other (congrArg some same)
    unfold DictionaryKind.step
    dsimp only
    split
    · rfl
    · simp [differs]

theorem VtfCfDictionary.Sound.removes {dictionary : VtfCfDictionary}
    (sound : dictionary.Sound) (key : CFTypeRef) :
    (dictionary.removeKey key).containsKey key = false ∧ ∀ other ≠ key,
        (dictionary.removeKey key).valueOf other = dictionary.valueOf other := by
  have bound (other : CFTypeRef) : (dictionary.removeKey key).valueOf other =
      if other = key then none else dictionary.valueOf other :=
    valueOf_removeKey sound.lengths sound.distinct
  constructor
  · rw [← (sound.removeKey key).valueOf_isSome, bound, if_pos rfl]
    rfl
  · intro other differs
    rw [bound, if_neg differs]

/-- **Dictionaries are finite maps.**  After any calls a dictionary answers
lookups as the map made by the same calls; a call changes one dictionary at
most; and removing an attachment removes its key, unless that is null. -/
theorem dictionaries_are_maps (calls : List DictionaryCall) (number : Nat)
    (dictionary : VtfCfDictionary)
    (known : (run vectors.step [] calls)[number]? = some dictionary) :
    let all := run vectors.step [] calls
    (∃ map, (run maps.step [] calls)[number]? = some map ∧ dictionary.Answers map) ∧
    (∀ call, DictionaryCall.target call ≠ some number →
      (vectors.step all call)[number]? = some dictionary) ∧
    ∀ key, (key = .null → vectors.step all (.removeAttachment number key) = all) ∧
      (key ≠ .null → ∃ after,
        (vectors.step all (.removeAttachment number key))[number]? = some after ∧
        after.containsKey key = false ∧
        ∀ other ≠ key, after.valueOf other = dictionary.valueOf other) := by
  intro all
  have represent : List.Forall₂ Represents all (run maps.step [] calls) := by
    dsimp only [all]
    clear known
    induction calls using reverseRecOn with
    | nil => exact .nil
    | append_singleton calls call induction =>
      rw [run_append, run_append]
      exact step_represents induction call
  have related := forall₂_getElem? represent number
  rw [known] at related
  generalize run maps.step [] calls = mapped at related ⊢
  cases found : mapped[number]? with
  | none =>
    rw [found] at related
    cases related
  | some map =>
    rw [found] at related
    obtain ⟨represents, _⟩ := forall₂_cons.mp related
    refine ⟨⟨map, rfl, represents.answers⟩, ?_, fun key => ⟨?_, ?_⟩⟩
    · intro call other
      rw [step_other other (List.getElem?_eq_some_iff.mp known).1]
      exact known
    · exact fun null => if_pos null
    · intro real
      refine ⟨_, ?_, represents.1.removes key⟩
      rw [DictionaryKind.step, if_neg real, getElem?_modify_eq, known]
      rfl

/-! ### A dictionary and its copy -/

def anyValue : Value := ⟨.static (.boolean true), by decide⟩

/-- The copy keeps the key that is then removed from the original. -/
theorem removed_from_original_only :
    let key := CFTypeRef.static (.string 0)
    let all := vectors.step (run vectors.step []
      [.createMutable, .setValue 0 key anyValue, .createCopy 0]) (.removeAttachment 0 key)
    all[1]? = some ⟨[key], [anyValue.1]⟩ ∧
      ∃ left, all[0]? = some left ∧ left.containsKey key = false := by
  intro key all
  obtain ⟨_, other, _⟩ := dictionaries_are_maps
    [.createMutable, .setValue 0 key anyValue, .createCopy 0] 1
    ⟨[key], [anyValue.1]⟩ (by decide)
  obtain ⟨_, _, removes⟩ := dictionaries_are_maps
    [.createMutable, .setValue 0 key anyValue, .createCopy 0] 0
    ⟨[key], [anyValue.1]⟩ (by decide)
  obtain ⟨left, found, absent, _⟩ := (removes key).2 (by decide)
  exact ⟨other (.removeAttachment 0 key) (by decide), left, found, absent⟩

/-- A value set under null stays: `CVBufferRemoveAttachment` refuses null. -/
theorem null_key_stays :
    (run vectors.step [] [.createMutable,
      .setValue 0 .null anyValue, .removeAttachment 0 .null])[0]?.map
        (·.containsKey .null) = some true := by
  decide

end VtFerry.CoreFoundation
