import VtFerry.Foundation.CountedHeap
import Mathlib.Data.List.Infix

/-!
# The shim's CoreFoundation objects

The shim has its own objects behind the CoreFoundation calls of its client.  An
object has a reference count of 32 bits and a finalizer; arrays and
dictionaries retain what is put into them, and their finalizers release it.
Constant strings and the booleans are static: they are not counted.  A
reference may also be null, and is then neither retained nor released.

The heap of counted objects is `CountedHeap.Heap`.  Of strings, numbers and
data only the kind is kept, as their contents refer to nothing.
-/

namespace VtFerry.CoreFoundation

open CountedHeap

/-- Objects with `VTF_OBJECT_FLAG_STATIC`. -/
inductive StaticObject
  | string (index : Nat)
  | boolean (value : Bool)
  deriving DecidableEq, Repr

inductive CFTypeRef
  | null
  | static (object : StaticObject)
  | object (id : Nat)
  deriving DecidableEq, Repr

/-- The two vectors of a dictionary always grow together, so they are kept as
one list of entries. -/
inductive CFBody
  | string
  | number
  | data
  | array (values : List CFTypeRef)
  | dictionary (entries : List (CFTypeRef × CFTypeRef))
  deriving DecidableEq, Repr

abbrev CFHeap := Heap CFBody

def CFTypeRef.target : CFTypeRef → Option Nat
  | .null => none
  | .static _ => none
  | .object id => some id

/-- What the finalizer releases, in its order: a dictionary's keys come before
its values. -/
def CFBody.slots : CFBody → List CFTypeRef
  | .string => []
  | .number => []
  | .data => []
  | .array values => values
  | .dictionary entries => entries.map Prod.fst ++ entries.map Prod.snd

def shape : Shape CFTypeRef CFBody where
  target := CFTypeRef.target
  slots := CFBody.slots

def cfRetain (heap : CFHeap) (value : CFTypeRef) : CFHeap :=
  retain shape heap value

def cfRelease (heap : CFHeap) (value : CFTypeRef) : CFHeap :=
  release shape heap value

/-! ## Creating objects -/

def vtfCfObjectInit (heap : CFHeap) (body : CFBody) : CFHeap × CFTypeRef :=
  (heap.create body, .object heap.cells.length)

/-- `bytes` tells whether the pointer is given. -/
def vtfCFStringCreateStatic (heap : CFHeap) (bytes : Bool) :
    CFHeap × CFTypeRef :=
  if bytes then vtfCfObjectInit heap .string else (heap, .null)

def kCFNumberSInt32Type : Int32 := 3
def kCFNumberSInt64Type : Int32 := 4
def kCFNumberDoubleType : Int32 := 6
def kCFNumberIntType : Int32 := 9

def cfNumberCreate (heap : CFHeap) (numberType : Int32) (valuePtr : Bool) :
    CFHeap × CFTypeRef :=
  if !valuePtr then (heap, .null)
  else if numberType = kCFNumberSInt32Type ∨ numberType = kCFNumberIntType ∨
      numberType = kCFNumberSInt64Type ∨ numberType = kCFNumberDoubleType then
    vtfCfObjectInit heap .number
  else (heap, .null)

def cfDataCreate (heap : CFHeap) (length : Int64) : CFHeap × CFTypeRef :=
  if length < 0 then (heap, .null) else vtfCfObjectInit heap .data

/-- A C array of references.  A null pointer stands for null elements. -/
abbrev Pointer := Option (Nat → CFTypeRef)

def Pointer.at (pointer : Pointer) (index : Nat) : CFTypeRef :=
  match pointer with
  | none => .null
  | some values => values index

def Pointer.elements (pointer : Pointer) (count : Int64) : List CFTypeRef :=
  (List.range count.toInt.toNat).map pointer.at

def cfArrayCreate (heap : CFHeap) (values : Pointer) (numValues : Int64) :
    CFHeap × CFTypeRef :=
  if numValues < 0 then (heap, .null)
  else
    let retained := values.elements numValues
    vtfCfObjectInit (retained.foldl cfRetain heap) (.array retained)

def retainEntry (heap : CFHeap) (entry : CFTypeRef × CFTypeRef) : CFHeap :=
  cfRetain (cfRetain heap entry.1) entry.2

def cfDictionaryCreate (heap : CFHeap) (keys values : Pointer)
    (numValues : Int64) : CFHeap × CFTypeRef :=
  if numValues < 0 then (heap, .null)
  else
    let entries := (keys.elements numValues).zip (values.elements numValues)
    vtfCfObjectInit (entries.foldl retainEntry heap) (.dictionary entries)

def cfDictionaryCreateMutable (heap : CFHeap) : CFHeap × CFTypeRef :=
  vtfCfObjectInit heap (.dictionary [])

/-! ## Dictionaries -/

/-- The entries of a reference that is a dictionary. -/
def entries? (heap : CFHeap) (dictionary : CFTypeRef) :
    Option (Nat × List (CFTypeRef × CFTypeRef)) :=
  match dictionary with
  | .object id =>
    match heap.node? id with
    | some ⟨_, .dictionary entries⟩ => some (id, entries)
    | _ => none
  | _ => none

/-- `vtf_get_type_id` reads the object, which may have been freed. -/
def readTypeId (heap : CFHeap) (value : CFTypeRef) : CFHeap :=
  match value with
  | .object id => if (heap.node? id).isSome then heap else heap.touch id
  | _ => heap

/-- Keys are compared as pointers. -/
def vtfDictionaryFindIndex (entries : List (CFTypeRef × CFTypeRef))
    (key : CFTypeRef) : Option Nat :=
  entries.findIdx? fun entry => entry.1 = key

def CFBody.storeValue (index : Nat) (value : CFTypeRef) : CFBody → CFBody
  | .dictionary entries =>
    .dictionary (entries.modify index fun entry => (entry.1, value))
  | body => body

def CFBody.pushEntry (key value : CFTypeRef) : CFBody → CFBody
  | .dictionary entries => .dictionary (entries ++ [(key, value)])
  | body => body

def valueAt (entries : List (CFTypeRef × CFTypeRef)) (index : Nat) :
    CFTypeRef :=
  (entries[index]?.map Prod.snd).getD .null

/-- For a key that is there the old value is released before the new one is
retained. -/
def cfDictionarySetValue (heap : CFHeap) (dictionary key value : CFTypeRef) :
    CFHeap :=
  match entries? heap dictionary with
  | none => readTypeId heap dictionary
  | some (id, entries) =>
    match vtfDictionaryFindIndex entries key with
    | some index =>
      let released := cfRelease heap (valueAt entries index)
      let retained := cfRetain released value
      retained.modifyBody id (.storeValue index value)
    | none =>
      let keyed := cfRetain heap key
      let valued := cfRetain keyed value
      valued.modifyBody id (.pushEntry key value)

def cfDictionaryCreateCopy (heap : CFHeap) (dictionary : CFTypeRef) :
    CFHeap × CFTypeRef :=
  match entries? heap dictionary with
  | none => (readTypeId heap dictionary, .null)
  | some (_, entries) =>
    let keyed := (entries.map Prod.fst).foldl cfRetain heap
    let valued := (entries.map Prod.snd).foldl cfRetain keyed
    vtfCfObjectInit valued (.dictionary entries)

/-! ## A client -/

inductive CFCall
  | stringCreateStatic (bytes : Bool)
  | numberCreate (numberType : Int32) (valuePtr : Bool)
  | dataCreate (length : Int64)
  | retain (value : CFTypeRef)
  | release (value : CFTypeRef)
  | arrayCreate (values : Pointer) (numValues : Int64)
  | dictionaryCreate (keys values : Pointer) (numValues : Int64)
  | dictionaryCreateMutable
  | dictionarySetValue (dictionary key value : CFTypeRef)
  | dictionaryCreateCopy (dictionary : CFTypeRef)

/-- The objects, and the references the client owns: those it was given by a
creating call and those it retained. -/
structure Client where
  heap : CFHeap
  owned : List Nat

def Client.fresh : Client where
  heap := Heap.empty
  owned := []

def Client.adopt (client : Client) (created : CFHeap × CFTypeRef) : Client where
  heap := created.1
  owned := shape.targets [created.2] ++ client.owned

def Client.step (client : Client) : CFCall → Client
  | .stringCreateStatic bytes =>
    client.adopt (vtfCFStringCreateStatic client.heap bytes)
  | .numberCreate numberType valuePtr =>
    client.adopt (cfNumberCreate client.heap numberType valuePtr)
  | .dataCreate length => client.adopt (cfDataCreate client.heap length)
  | .retain value => client.adopt (cfRetain client.heap value, value)
  | .release value =>
    { heap := cfRelease client.heap value
      owned := client.owned.diff (shape.targets [value]) }
  | .arrayCreate values numValues =>
    client.adopt (cfArrayCreate client.heap values numValues)
  | .dictionaryCreate keys values numValues =>
    client.adopt (cfDictionaryCreate client.heap keys values numValues)
  | .dictionaryCreateMutable =>
    client.adopt (cfDictionaryCreateMutable client.heap)
  | .dictionarySetValue dictionary key value =>
    { client with
      heap := cfDictionarySetValue client.heap dictionary key value }
  | .dictionaryCreateCopy dictionary =>
    client.adopt (cfDictionaryCreateCopy client.heap dictionary)

def CFCall.passed : CFCall → List CFTypeRef
  | .stringCreateStatic _ => []
  | .numberCreate _ _ => []
  | .dataCreate _ => []
  | .retain value => [value]
  | .release value => [value]
  | .arrayCreate values numValues => values.elements numValues
  | .dictionaryCreate keys values numValues =>
    keys.elements numValues ++ values.elements numValues
  | .dictionaryCreateMutable => []
  | .dictionarySetValue dictionary key value => [dictionary, key, value]
  | .dictionaryCreateCopy dictionary => [dictionary]

/-- The references a call releases on behalf of the client. -/
def CFCall.givenUp : CFCall → List CFTypeRef
  | .release value => [value]
  | _ => []

end VtFerry.CoreFoundation
