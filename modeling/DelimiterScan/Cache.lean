import DelimiterScan.Scan

/-!
# Caches of scans

A cache keeps results under the text that was scanned. A result is taken again for any list of
delimiters with the same keys and any options with the same fingerprint. The numbers of texts and
of results for a text are bounded, and the oldest ones make room; being asked for does not make
anything younger.
-/

namespace DelimiterScan

/-- A kept result, with what it may be taken again for. -/
structure CacheEntry where
  keys : KeySet
  fingerprint : Options.Fingerprint
  result : ScanResult

def CacheEntry.answers (e : CacheEntry) (keys : KeySet) (fingerprint : Options.Fingerprint) :
    Bool :=
  e.keys = keys && e.fingerprint = fingerprint

/-- The results for a text, the oldest first. -/
structure CacheRecord where
  input : String
  entries : List CacheEntry

/-- Results by text. The texts are also kept by age, to know which one makes room. -/
structure Cache where
  /-- The greatest number of texts. -/
  maxInputs : Nat
  /-- A table: the order of its records does not matter. -/
  records : List CacheRecord := []
  /-- The texts, the oldest first. -/
  order : List String := []

namespace Cache

def defaultMaxInputs : Nat := 1024

def maxEntries : Nat := 16

/-- An empty cache for a number of texts, but at least for one. -/
def ofMaxInputs (n : Nat) : Cache := ⟨max n 1, [], []⟩

def new : Cache := ofMaxInputs defaultMaxInputs

def size (c : Cache) : Nat :=
  c.records.foldl (fun n record => n + record.entries.length) 0

def isEmpty (c : Cache) : Bool := c.records.isEmpty

def clear (c : Cache) : Cache := { c with records := [], order := [] }

def entriesOf (c : Cache) (input : String) : List CacheEntry :=
  match c.records.find? (·.input = input) with
  | none => []
  | some record => record.entries

def lookup (c : Cache) (input : String) (keys : KeySet) (fingerprint : Options.Fingerprint) :
    Option ScanResult :=
  ((c.entriesOf input).find? (·.answers keys fingerprint)).map (·.result)

/-- A list with one more element at its end, without its first one if it is full. -/
def pushBounded {α : Type} (bound : Nat) (xs : List α) (x : α) : List α :=
  (if bound ≤ xs.length then xs.tail else xs) ++ [x]

/-- The record with one more entry, unless it has one for the same requests. -/
def addEntry (record : CacheRecord) (entry : CacheEntry) : CacheRecord :=
  if record.entries.any (·.answers entry.keys entry.fingerprint) then record
  else { record with entries := pushBounded maxEntries record.entries entry }

/-- Takes the oldest texts out of the order and the table until one more text has room. -/
def evict (bound : Nat) : List String → List CacheRecord → List String × List CacheRecord
  | [], records => ([], records)
  | oldest :: order, records =>
    if bound ≤ order.length + 1 then evict bound order (records.filter (·.input ≠ oldest))
    else (oldest :: order, records)

/-- Keeps a result for a text, in place of the oldest one if there is no room. -/
def store (c : Cache) (input : String) (entry : CacheEntry) : Cache :=
  if c.records.any (·.input = input) then
    { c with
      records := c.records.map fun record =>
        if record.input = input then addEntry record entry else record }
  else
    let (order, records) := evict c.maxInputs c.order c.records
    { c with records := records ++ [⟨input, [entry]⟩], order := order ++ [input] }

/-- Scans a text, or takes the result from the cache. Delimiters and options are those of the
request. Errors are not kept. -/
def scan (c : Cache) (input : String) (options : Options) (delims : List Delimiter) :
    Except ScanError ScanResult × Cache :=
  if !options.cache then (DelimiterScan.scan input options delims, c)
  else
    let keys := KeySet.ofDelimiters delims
    let fingerprint := options.fingerprint
    match c.lookup input keys fingerprint with
    | some result => (.ok { result with delims, options }, c)
    | none =>
      match DelimiterScan.scan input options delims with
      | .error e => (.error e, c)
      | .ok result => (.ok result, c.store input ⟨keys, fingerprint, result⟩)

def scanBytes (c : Cache) (input : List UInt8) (options : Options) (delims : List Delimiter) :
    Except ScanError ScanResult × Cache :=
  match Text.Utf8.decode input with
  | .error fault => (.error (.invalidInput fault), c)
  | .ok input => c.scan input options delims

def describe (c : Cache) : String :=
  "ScanCache \x7b entries: " ++ toString c.size ++ ", max_inputs: " ++ toString c.maxInputs ++
    ", .. \x7d"

end Cache

end DelimiterScan
