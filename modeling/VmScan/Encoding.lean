import VmScan.Batch

/-!
# Token encodings

Exact token counts need the encoding of a model. An encoding is loaded when it is first needed,
and the ones used last are kept.

* `Encodings` — where encodings come from.
* `EncodingCache` — the encodings that are kept, the one used last at the front (`_encoding_for`).
* `EncodingCache.use` — the encoding of a model, from the cache or loaded. A model that is not
  known takes the encoding `fallbackEncoding`, with a warning.
-/

namespace VmScan

/-- Where encodings come from: the one of a model, if the model is known, and the one with a
name. -/
structure Encodings where
  ofModel? : String → Option TokenCounter
  ofName : String → TokenCounter

/-- A request for an encoding. -/
inductive Load where
  | model (name : String)
  | encoding (name : String)
  deriving DecidableEq, Repr

/-- The encoding of models that are not known. -/
def fallbackEncoding : String := "cl100k_base"

/-- The warning for a model that is not known. -/
def unknownModelWarning (model : String) : String :=
  s!"event=unknown_tokenizer_model model={model} fallback={fallbackEncoding}"

/-- The encodings that are kept by model, the one used last at the front. -/
abbrev EncodingCache := List (String × TokenCounter)

namespace EncodingCache

/-- The greatest number of encodings that are kept. -/
def capacity : Nat := 8

/-- An encoding with what getting it took. -/
structure Use where
  counter : TokenCounter
  cache : EncodingCache
  loads : List Load := []
  warning : Option String := none

/-- The encoding of the model as it is loaded. -/
def load (encodings : Encodings) (model : String) : TokenCounter × List Load × Option String :=
  match encodings.ofModel? model with
  | some counter => (counter, [.model model], none)
  | none =>
    (encodings.ofName fallbackEncoding, [.model model, .encoding fallbackEncoding],
      some (unknownModelWarning model))

/-- The cache with the encoding at the front. -/
def keep (cache : EncodingCache) (model : String) (counter : TokenCounter) : EncodingCache :=
  ((model, counter) :: cache.filter fun (other, _) => other ≠ model).take capacity

/-- The encoding of the model, from the cache or loaded. -/
def use (encodings : Encodings) (cache : EncodingCache) (model : String) : Use :=
  match cache.find? fun (other, _) => other = model with
  | some (_, counter) => { counter, cache := cache.keep model counter }
  | none =>
    match load encodings model with
    | (counter, loads, warning) => { counter, cache := cache.keep model counter, loads, warning }

theorem length_keep_le (cache : EncodingCache) (model : String) (counter : TokenCounter) :
    (cache.keep model counter).length ≤ capacity := by
  rw [keep, List.length_take]
  omega

end EncodingCache

end VmScan
