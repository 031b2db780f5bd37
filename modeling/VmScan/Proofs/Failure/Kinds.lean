import Mathlib.Data.List.Forall2
import VmScan.Failure.Kind
import VmScan.Model.Client
import VmScan.Proofs.Text.Lower

/-!
# What the kind of a failure depends on

A fault says what it is through the signals of its class or through the integer status of a failed
request, whatever it reads as. The first fault of a chain that does so decides about the whole chain
(`classify_failure`); a fault whose status is not the one of a failed request is passed over like
one without a status. Only a chain without such a fault is sorted by its texts.

* `Fault.Structured` — the fault says what it is.
* `Fault.States` — the kind that it says.
* `SameSigns` — two chains that differ at most in what their faults read as.
* `Failure.messages` — the texts of a chain in lower case, side by side.

Results:
* `kind?_eq_some_iff`, `kind?_eq_none_iff`: what is read off a fault.
* `first_structured_states`: the first structured fault of a chain states the kind.
* `kind_eq_of_sameSigns`: no text counts where a fault is structured.
* `kind_wrap`: nor does a fault around the chain that is not structured itself.
* `kind_of_not_structured`: without a structured fault the texts in lower case decide.
* `structured_before_texts`: all of it, for every chain.
-/

namespace VmScan

/-! ## What a fault states -/

/-- The fault says what it is, apart from its text: its class has a signal, or its status is an
integer from 400 to 599. -/
def Fault.Structured (fault : Fault) : Prop :=
  fault.signals ≠ [] ∨ ∃ n, fault.status = some (.integer n) ∧ 400 ≤ n ∧ n ≤ 599

/-- The kind that a fault states: by the first of the signals that its class has, and by its status
where the class has none. -/
inductive Fault.States (fault : Fault) : FailureKind → Prop
  | parse (hrefused : Signal.refusedResponse ∈ fault.signals) : Fault.States fault .parse
  | circuitOpen (hrefused : Signal.refusedResponse ∉ fault.signals)
      (hopen : Signal.circuitOpen ∈ fault.signals) : Fault.States fault .circuitOpen
  | timeout (hrefused : Signal.refusedResponse ∉ fault.signals)
      (hopen : Signal.circuitOpen ∉ fault.signals)
      (htimeout : Signal.timeout ∈ fault.signals) : Fault.States fault .timeout
  | rateLimited (hnone : fault.signals = []) (hstatus : fault.status = some (.integer 429)) :
      Fault.States fault .rateLimited
  | client (n : Int) (hnone : fault.signals = []) (hstatus : fault.status = some (.integer n))
      (hlower : 400 ≤ n) (hupper : n ≤ 499) (hlimit : n ≠ 429) : Fault.States fault .client
  | server (n : Int) (hnone : fault.signals = []) (hstatus : fault.status = some (.integer n))
      (hlower : 500 ≤ n) (hupper : n ≤ 599) : Fault.States fault .server

namespace Fault

variable {fault other : Fault} {kind : FailureKind}

theorem signal?_eq_none_iff : fault.signal? = none ↔ fault.signals = [] := by
  rw [signal?, List.find?_eq_none, List.eq_nil_iff_forall_not_mem]
  constructor
  · intro h signal hmem
    have hall : signal ∈ Signal.all := by cases signal <;> decide
    exact h signal hall (decide_eq_true hmem)
  · intro h signal _ hmem
    exact h signal (of_decide_eq_true hmem)

theorem kind?_of_signals_eq_nil (hnone : fault.signals = []) :
    fault.kind? = fault.status.bind (·.kind?) := by
  rw [kind?, signal?_eq_none_iff.mpr hnone]
  rfl

theorem States.kind?_eq (h : fault.States kind) : fault.kind? = some kind := by
  cases h with
  | parse hrefused =>
    have hsignal : fault.signal? = some .refusedResponse := by simp [signal?, Signal.all, hrefused]
    rw [kind?, hsignal]
    rfl
  | circuitOpen hrefused hopen =>
    have hsignal : fault.signal? = some .circuitOpen := by
      simp [signal?, Signal.all, hrefused, hopen]
    rw [kind?, hsignal]
    rfl
  | timeout hrefused hopen htimeout =>
    have hsignal : fault.signal? = some .timeout := by
      simp [signal?, Signal.all, hrefused, hopen, htimeout]
    rw [kind?, hsignal]
    rfl
  | rateLimited hnone hstatus =>
    rw [kind?_of_signals_eq_nil hnone, hstatus]
    rfl
  | client n hnone hstatus hlower hupper hlimit =>
    rw [kind?_of_signals_eq_nil hnone, hstatus, Option.bind_some, StatusCode.kind?,
      if_neg hlimit, if_pos (by omega)]
  | server n hnone hstatus hlower hupper =>
    rw [kind?_of_signals_eq_nil hnone, hstatus, Option.bind_some, StatusCode.kind?,
      if_neg (by omega), if_neg (by omega), if_pos (by omega)]

/-- A structured fault states a kind. -/
theorem Structured.exists_states (h : fault.Structured) : ∃ kind, fault.States kind := by
  by_cases hrefused : Signal.refusedResponse ∈ fault.signals
  · exact ⟨_, .parse hrefused⟩
  by_cases hopen : Signal.circuitOpen ∈ fault.signals
  · exact ⟨_, .circuitOpen hrefused hopen⟩
  by_cases htimeout : Signal.timeout ∈ fault.signals
  · exact ⟨_, .timeout hrefused hopen htimeout⟩
  have hnone : fault.signals = [] := by
    rw [List.eq_nil_iff_forall_not_mem]
    intro signal
    cases signal <;> assumption
  obtain hsome | ⟨n, hstatus, hlower, hupper⟩ := h
  · exact absurd hnone hsome
  · by_cases hlimit : n = 429
    · exact ⟨_, .rateLimited hnone (hlimit ▸ hstatus)⟩
    · by_cases hserver : 500 ≤ n
      · exact ⟨_, .server n hnone hstatus hserver hupper⟩
      · exact ⟨_, .client n hnone hstatus hlower (by omega) hlimit⟩

/-- Nothing is read off a fault exactly if it is not structured. -/
theorem kind?_eq_none_iff : fault.kind? = none ↔ ¬ fault.Structured := by
  constructor
  · intro h hstructured
    obtain ⟨kind, hkind⟩ := hstructured.exists_states
    rw [hkind.kind?_eq] at h
    cases h
  · intro h
    have hnone : fault.signals = [] := by
      by_contra hsome
      exact h (.inl hsome)
    rw [kind?_of_signals_eq_nil hnone]
    match hstatus : fault.status with
    | none | some .other => rfl
    | some (.integer n) =>
      have hout : ¬ (400 ≤ n ∧ n ≤ 599) := fun hn => h (.inr ⟨n, hstatus, hn⟩)
      rw [Option.bind_some, StatusCode.kind?, if_neg (by omega), if_neg (by omega),
        if_neg (by omega)]

/-- What is read off a fault is the kind that it states. -/
theorem kind?_eq_some_iff : fault.kind? = some kind ↔ fault.States kind := by
  refine ⟨fun h => ?_, States.kind?_eq⟩
  by_cases hstructured : fault.Structured
  · obtain ⟨stated, hstated⟩ := hstructured.exists_states
    rw [hstated.kind?_eq] at h
    exact Option.some.inj h ▸ hstated
  · rw [kind?_eq_none_iff.mpr hstructured] at h
    cases h

theorem not_structured_of_plain (hsignals : fault.signals = []) (hstatus : fault.status = none) :
    ¬ fault.Structured := by
  rintro (hsome | ⟨n, hinteger, -⟩)
  · exact hsome hsignals
  · rw [hstatus] at hinteger
    cases hinteger

theorem kind?_congr (hsignals : other.signals = fault.signals)
    (hstatus : other.status = fault.status) : other.kind? = fault.kind? := by
  rw [kind?, kind?, signal?, signal?, hsignals, hstatus]

end Fault

/-! ## What a chain states -/

/-- Two chains whose faults have the same signals and statuses, one by one, whatever they read
as. -/
def SameSigns : List Fault → List Fault → Prop :=
  List.Forall₂ fun fault other => other.signals = fault.signals ∧ other.status = fault.status

theorem SameSigns.findSome?_eq {faults others : List Fault} (h : SameSigns faults others) :
    others.findSome? (·.kind?) = faults.findSome? (·.kind?) := by
  induction h with
  | nil => rfl
  | cons hsigns _ ih =>
    rw [List.findSome?_cons, List.findSome?_cons, ih, Fault.kind?_congr hsigns.1 hsigns.2]

namespace Failure

/-- The texts of the faults of a chain in lower case, in their order, with blanks between them. -/
def messages (failure : Failure) : String :=
  " ".intercalate (failure.chain.map fun fault => Text.lower fault.text)

variable {failure : Failure}

theorem findSome?_eq_none_iff :
    failure.chain.findSome? (·.kind?) = none ↔ ∀ fault ∈ failure.chain, ¬ fault.Structured := by
  simp only [List.findSome?_eq_none_iff, Fault.kind?_eq_none_iff]

/-- The kind that is read off a chain, where one is, is its kind. -/
theorem findSome?_eq_kind (h : ∃ fault ∈ failure.chain, fault.Structured) :
    failure.chain.findSome? (·.kind?) = some failure.kind := by
  cases hfound : failure.chain.findSome? (·.kind?) with
  | none =>
    obtain ⟨fault, hmem, hfault⟩ := h
    exact absurd hfault (findSome?_eq_none_iff.mp hfound fault hmem)
  | some found => rw [kind, kindOfChain, hfound, Option.getD_some]

/-- The first structured fault of a chain states the kind of the failure. -/
theorem first_structured_states (h : ∃ fault ∈ failure.chain, fault.Structured) :
    ∃ before fault behind, failure.chain = before ++ fault :: behind ∧
      (∀ earlier ∈ before, ¬ earlier.Structured) ∧ fault.Structured ∧
      fault.States failure.kind := by
  obtain ⟨before, fault, behind, hchain, hkind, hbefore⟩ :=
    List.findSome?_eq_some_iff.mp (findSome?_eq_kind h)
  refine ⟨before, fault, behind, hchain, ?_, ?_, Fault.kind?_eq_some_iff.mp hkind⟩
  · exact fun earlier hmem => Fault.kind?_eq_none_iff.mp (hbefore earlier hmem)
  · by_contra hnot
    rw [Fault.kind?_eq_none_iff.mpr hnot] at hkind
    cases hkind

/-- Where a fault is structured, the kind does not depend on any text. -/
theorem kind_eq_of_sameSigns {other : Failure} (h : ∃ fault ∈ failure.chain, fault.Structured)
    (hsigns : SameSigns failure.chain other.chain) : other.kind = failure.kind := by
  rw [kind, kindOfChain, hsigns.findSome?_eq, findSome?_eq_kind h, Option.getD_some]

/-- Nor does it depend on a fault around the others that is not structured. -/
theorem kind_wrap {wrapper : Fault} (h : ∃ fault ∈ failure.chain, fault.Structured)
    (hwrapper : ¬ wrapper.Structured) : (failure.wrap wrapper).kind = failure.kind := by
  have hchain : (failure.wrap wrapper).chain = wrapper :: failure.chain := rfl
  rw [kind, kindOfChain, hchain, List.findSome?_cons, Fault.kind?_eq_none_iff.mpr hwrapper,
    findSome?_eq_kind h]
  rfl

/-- Where no fault is structured, the texts in lower case decide. -/
theorem kind_of_not_structured (h : ∀ fault ∈ failure.chain, ¬ fault.Structured) :
    failure.kind = kindOfText failure.messages := by
  rw [kind, kindOfChain, findSome?_eq_none_iff.mpr h, Option.getD_none, joinedText,
    Text.lower_intercalate, List.map_map]
  rfl

/-- **Structured faults decide before any text.** If a fault of a chain is structured, the first one
states the kind, whatever all texts are and whatever wraps the chain without being structured
itself, as the failed request of any client does. If none is, only the texts in lower case count,
side by side in the order of the chain. -/
theorem structured_before_texts (failure : Failure) :
    ((∃ fault ∈ failure.chain, fault.Structured) →
      (∃ before fault behind, failure.chain = before ++ fault :: behind ∧
        (∀ earlier ∈ before, ¬ earlier.Structured) ∧ fault.Structured ∧
        fault.States failure.kind) ∧
      (∀ other : Failure, SameSigns failure.chain other.chain → other.kind = failure.kind) ∧
      (∀ wrapper : Fault, ¬ wrapper.Structured → (failure.wrap wrapper).kind = failure.kind) ∧
      ∀ client : Client, (client.requestFailed failure).kind = failure.kind) ∧
    ((∀ fault ∈ failure.chain, ¬ fault.Structured) →
      failure.kind = kindOfText failure.messages ∧
      ∀ other : Failure, (∀ fault ∈ other.chain, ¬ fault.Structured) →
        other.messages = failure.messages → other.kind = failure.kind) := by
  constructor
  · intro h
    -- the class of a failed request has no signal, and no status
    exact ⟨first_structured_states h, fun other => kind_eq_of_sameSigns h,
      fun wrapper => kind_wrap h,
      fun client => kind_wrap h (Fault.not_structured_of_plain rfl rfl)⟩
  · intro h
    refine ⟨kind_of_not_structured h, fun other hother hmessages => ?_⟩
    rw [kind_of_not_structured hother, hmessages, kind_of_not_structured h]

/-- A request that was redirected and then refused, behind which a timeout stands. -/
def refusedKey (texts : Fin 3 → String) : Failure where
  fault := { name := "ModelRequestError", text := texts 0, status := some (.integer 302) }
  causes := [
    { name := "AuthenticationError", text := texts 1, status := some (.integer 401) },
    { name := "TimeoutError", text := texts 2, signals := [.timeout] }]

/-- A limit of which no fault says more than its text. -/
def toldLimit (first second : String) : Failure where
  fault := { name := "ModelRequestError", text := first }
  causes := [{ name := "RuntimeError", text := second }]

/-- A refused key is recognised behind any texts and around a status that says nothing, and a limit
by words that only the joined texts have. -/
theorem structured_before_texts_refusedKey :
    (∀ texts, (refusedKey texts).kind = .client) ∧
      (∀ client : Client,
        (client.requestFailed (refusedKey fun _ => "429 timed out")).kind = .client) ∧
      (toldLimit "Rate" "LIMIT reached").kind = .rateLimited ∧
      (toldLimit "RATE" "limit Reached").kind = .rateLimited := by
  have hstructured (texts) : ∃ fault ∈ (refusedKey texts).chain, fault.Structured :=
    ⟨_, .tail _ (.head _), .inr ⟨401, rfl, by decide, by decide⟩⟩
  have hnone (first second : String) :
      ∀ fault ∈ (toldLimit first second).chain, ¬ fault.Structured := by
    intro fault hmem
    obtain rfl | rfl : fault = _ ∨ fault = _ := by simpa [chain, toldLimit] using hmem
    · exact Fault.not_structured_of_plain rfl rfl
    · exact Fault.not_structured_of_plain rfl rfl
  have hkind : (refusedKey fun _ => "429 timed out").kind = .client := rfl
  obtain ⟨-, hretold, -, hclient⟩ :=
    (structured_before_texts (refusedKey fun _ => "429 timed out")).1 (hstructured _)
  obtain ⟨hlimit, hsame⟩ :=
    (structured_before_texts (toldLimit "Rate" "LIMIT reached")).2 (hnone _ _)
  have hlimited : (toldLimit "Rate" "LIMIT reached").kind = .rateLimited := by
    rw [hlimit]
    decide +kernel
  refine ⟨fun texts => ?_, fun client => (hclient client).trans hkind, hlimited, ?_⟩
  · have hsigns : SameSigns (refusedKey fun _ => "429 timed out").chain (refusedKey texts).chain :=
      .cons ⟨rfl, rfl⟩ (.cons ⟨rfl, rfl⟩ (.cons ⟨rfl, rfl⟩ .nil))
    exact (hretold _ hsigns).trans hkind
  · have hmessages : (toldLimit "RATE" "limit Reached").messages
        = (toldLimit "Rate" "LIMIT reached").messages := by decide +kernel
    exact (hsame _ (hnone _ _) hmessages).trans hlimited

end Failure

end VmScan
