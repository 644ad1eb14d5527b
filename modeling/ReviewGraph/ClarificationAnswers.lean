import ReviewGraph.ReviewStages
import ReviewGraph.Foundation.Tables

/-!
# Clarification answers

`clarification.py`: the gate that lists the pending requests, and the ingestion of an answer, over
the five fields of the review state that they read and change.  The gate goes by the status of each
request; the ingestion goes by the first request with the identifier.  The two agree exactly when,
among the requests with one identifier, no pending one stands behind another one that hides it.
-/

namespace ReviewGraph

/-! ## Records -/

/-- `ClarificationAnswer`. -/
structure ClarificationAnswer where
  id : Text
  requestId : Text
  answer : Text
  answeredBy : Text
  answeredAt : Text
  deriving DecidableEq

instance : Record ClarificationAnswer where
  postInit a := do
    requireNonEmpty a.id "clarification answer id"
    requireNonEmpty a.requestId "clarification answer request_id"
    requireNonEmpty a.answer "clarification answer answer"
    requireNonEmpty a.answeredBy "clarification answer answered_by"
    requireNonEmpty a.answeredAt "clarification answer answered_at"

/-- `ClarificationStatus`. -/
structure ClarificationStatus where
  requestId : Text
  status : ClarificationState
  reason : Option Text
  deriving DecidableEq

instance : Record ClarificationStatus where
  postInit s := do
    requireNonEmpty s.requestId "clarification status request_id"
    requireOptionalNonEmpty s.reason "clarification status reason"

/-- The fields of `ReviewState` about clarifications. -/
structure ClarificationFields where
  clarificationRequests : List (Checked SourcedClarificationRequest)
  clarifications : List (Checked ClarificationAnswer)
  clarificationStatus : List (Text × Checked ClarificationStatus)
  pendingClarificationIds : List Text
  readyClarificationIds : List Text

/-! ## The gate and the ingestion -/

/-- The identifier of a request is not empty. -/
lemma clarificationRequest_id_ne_nil (request : Checked SourcedClarificationRequest) :
    request.val.request.id ≠ [] := by
  have h := request.property
  simp only [Record.postInit, check_bind_eq_ok, requireNonEmpty_eq_ok] at h
  exact h.1

/-- The status of a request that the gate reports. -/
def reportedStatus (request : Checked SourcedClarificationRequest) : Checked ClarificationStatus :=
  ⟨⟨request.val.request.id, request.val.status.getD .pending, none⟩, by
    simp only [Record.postInit, check_bind_eq_ok, requireNonEmpty_eq_ok]
    exact ⟨clarificationRequest_id_ne_nil request, rfl⟩⟩

/-- The `status` of `evaluate_clarification_gate`. -/
def clarificationGateStatus (requests : List (Checked SourcedClarificationRequest)) :
    List (Text × Checked ClarificationStatus) :=
  requests.foldl (fun status request =>
    Table.set status request.val.request.id (reportedStatus request)) []

/-- `_pending_request`, from an index on. -/
def pendingRequestFrom (requestId : Text) :
    ℕ → List (Checked SourcedClarificationRequest) →
      Result (ℕ × Checked SourcedClarificationRequest)
  | _, [] => .error (.valueError ("clarification request " ++ (requestId ++ " was not found")))
  | index, request :: requests =>
    if request.val.request.id ≠ requestId then pendingRequestFrom requestId (index + 1) requests
    else if request.val.isPending = false then
      .error (.valueError ("clarification request " ++ (requestId ++ " is not pending")))
    else .ok (index, request)

/-- `_pending_request`. -/
def pendingRequest (requests : List (Checked SourcedClarificationRequest)) (requestId : Text) :
    Result (ℕ × Checked SourcedClarificationRequest) :=
  pendingRequestFrom requestId 0 requests

namespace ClarificationFields

/-- `ingest_clarification_answer`: what it raises, and the fields it leaves behind either way. -/
def ingest (st : ClarificationFields) (answer : Checked ClarificationAnswer) :
    Result Unit × ClarificationFields :=
  let requestId := answer.val.requestId
  match pendingRequest st.clarificationRequests requestId with
  | .error e => (.error e, st)
  | .ok (index, request) =>
    let st := { st with clarifications := st.clarifications ++ [answer] }
    match construct { request.val with status := some .answered } with
    | .error e => (.error e, st)
    | .ok answered =>
      let st := { st with
        clarificationRequests := st.clarificationRequests.set index answered }
      match construct (α := ClarificationStatus) ⟨requestId, .answered, none⟩ with
      | .error e => (.error e, st)
      | .ok status =>
        (.ok (), { st with
          clarificationStatus := Table.set st.clarificationStatus requestId status
          pendingClarificationIds := st.pendingClarificationIds.filter fun id => id ≠ requestId
          readyClarificationIds :=
            if requestId ∈ st.readyClarificationIds then st.readyClarificationIds
            else st.readyClarificationIds ++ [requestId] })

/-- The fields after a sequence of calls. -/
def ingestAll (st : ClarificationFields) (answers : List (Checked ClarificationAnswer)) :
    ClarificationFields :=
  answers.foldl (fun st answer => (st.ingest answer).2) st

/-- The assignments of `_ingest_available_clarification_answers` to the requests that the run has
accumulated. -/
def openRound (st : ClarificationFields) (requests : List (Checked SourcedClarificationRequest)) :
    ClarificationFields :=
  { st with
    clarificationRequests := requests
    pendingClarificationIds := (evaluateClarificationGate requests).pendingIds
    clarificationStatus := clarificationGateStatus requests }

end ClarificationFields

/-! ## Requests with one identifier -/

/-- The requests with an identifier, in their order. -/
def requestsNamed (requests : List (Checked SourcedClarificationRequest)) (id : Text) :
    List (Checked SourcedClarificationRequest) :=
  requests.filter fun request => request.val.request.id = id

/-- The requests with an identifier. -/
lemma mem_requestsNamed {requests : List (Checked SourcedClarificationRequest)} {id : Text}
    {request : Checked SourcedClarificationRequest} :
    request ∈ requestsNamed requests id ↔ request ∈ requests ∧ request.val.request.id = id := by
  rw [requestsNamed, List.mem_filter, decide_eq_true_eq]

/-- They are found in both parts of a list. -/
lemma requestsNamed_append (requests others : List (Checked SourcedClarificationRequest))
    (id : Text) :
    requestsNamed (requests ++ others) id = requestsNamed requests id ++ requestsNamed others id :=
  List.filter_append ..

/-- A first request with the identifier is among them. -/
lemma requestsNamed_cons_self {request : Checked SourcedClarificationRequest} {id : Text}
    (h : request.val.request.id = id) (requests : List (Checked SourcedClarificationRequest)) :
    requestsNamed (request :: requests) id = request :: requestsNamed requests id :=
  List.filter_cons_of_pos (decide_eq_true h)

/-- A first request with another one is not. -/
lemma requestsNamed_cons_of_ne {request : Checked SourcedClarificationRequest} {id : Text}
    (h : request.val.request.id ≠ id) (requests : List (Checked SourcedClarificationRequest)) :
    requestsNamed (request :: requests) id = requestsNamed requests id :=
  List.filter_cons_of_neg (by simpa using h)

/-- There are none where no request has the identifier. -/
lemma requestsNamed_eq_nil {requests : List (Checked SourcedClarificationRequest)} {id : Text}
    (h : ∀ request ∈ requests, request.val.request.id ≠ id) : requestsNamed requests id = [] :=
  List.filter_eq_nil_iff.2 fun request hmem => by simpa using h request hmem

/-- The identifiers that the gate lists as pending. -/
lemma mem_pendingIds {requests : List (Checked SourcedClarificationRequest)} {id : Text} :
    id ∈ (evaluateClarificationGate requests).pendingIds ↔
      ∃ request ∈ requestsNamed requests id, request.val.isPending = true := by
  simp only [evaluateClarificationGate, List.mem_map, List.mem_filter, mem_requestsNamed]
  constructor
  · rintro ⟨request, ⟨hmem, hpending⟩, hid⟩
    exact ⟨request, ⟨hmem, hid⟩, hpending⟩
  · rintro ⟨request, ⟨hmem, hid⟩, hpending⟩
    exact ⟨request, ⟨hmem, hpending⟩, hid⟩

/-- The identifiers that the gate lists as blocking. -/
lemma mem_blockingPendingIds {requests : List (Checked SourcedClarificationRequest)} {id : Text} :
    id ∈ (evaluateClarificationGate requests).blockingPendingIds ↔
      ∃ request ∈ requestsNamed requests id,
        request.val.isPending = true ∧ request.val.request.blocksVerdict = true := by
  simp only [evaluateClarificationGate, List.mem_map, List.mem_filter, mem_requestsNamed]
  constructor
  · rintro ⟨request, ⟨⟨hmem, hpending⟩, hblocks⟩, hid⟩
    exact ⟨request, ⟨hmem, hid⟩, hpending, hblocks⟩
  · rintro ⟨request, ⟨hmem, hid⟩, hpending, hblocks⟩
    exact ⟨request, ⟨⟨hmem, hpending⟩, hblocks⟩, hid⟩

/-- What `_pending_request` returns is the first request with the identifier. -/
lemma pendingRequestFrom_eq_ok {id : Text} {requests : List (Checked SourcedClarificationRequest)} :
    ∀ {start index : ℕ} {request : Checked SourcedClarificationRequest},
      pendingRequestFrom id start requests = .ok (index, request) →
      ∃ before after, requests = before ++ request :: after ∧ index = start + before.length ∧
        (∀ other ∈ before, other.val.request.id ≠ id) ∧ request.val.request.id = id ∧
        request.val.isPending = true := by
  induction requests with
  | nil => exact fun h => absurd h (by simp [pendingRequestFrom])
  | cons head tail ih =>
    intro start index request h
    rw [pendingRequestFrom] at h
    split at h
    · rename_i hne
      obtain ⟨before, after, rfl, rfl, hbefore, hid, hpending⟩ := ih h
      refine ⟨head :: before, after, rfl, ?_, ?_, hid, hpending⟩
      · rw [List.length_cons]
        omega
      · rintro other hother
        rcases List.mem_cons.1 hother with rfl | hother
        · exact hne
        · exact hbefore other hother
    · rename_i hid
      split at h
      · contradiction
      · rename_i hpending
        obtain ⟨rfl, rfl⟩ := Prod.mk.inj (Except.ok.inj h)
        exact ⟨[], tail, rfl, rfl, by simp, not_not.1 hid, Bool.not_eq_false _ ▸ hpending⟩

/-- `_pending_request` raises exactly when no request has the identifier or the first one that has
it is not pending. -/
lemma pendingRequestFrom_eq_error {id : Text}
    {requests : List (Checked SourcedClarificationRequest)} :
    ∀ {start : ℕ}, (∃ e, pendingRequestFrom id start requests = .error e) ↔
      ∀ first others, requestsNamed requests id = first :: others →
        first.val.isPending = false := by
  induction requests with
  | nil => simp [pendingRequestFrom, requestsNamed]
  | cons head tail ih =>
    intro start
    rw [pendingRequestFrom]
    by_cases hid : head.val.request.id = id
    · rw [if_neg (not_not.2 hid), requestsNamed_cons_self hid]
      cases hpending : head.val.isPending
      · rw [if_pos rfl]
        refine ⟨fun _ first others h => ?_, fun _ => ⟨_, rfl⟩⟩
        obtain ⟨rfl, -⟩ := List.cons.inj h
        exact hpending
      · rw [if_neg (by simp)]
        constructor
        · rintro ⟨e, he⟩
          contradiction
        · intro h
          rw [h head _ rfl] at hpending
          contradiction
    · rw [if_pos hid, requestsNamed_cons_of_ne hid]
      exact ih

/-! ## One call -/

/-- A request that has been answered. -/
structure Answers (request answered : Checked SourcedClarificationRequest) : Prop where
  val : answered.val = { request.val with status := some .answered }

/-- An answer keeps the identifier of its request. -/
lemma Answers.id {request answered : Checked SourcedClarificationRequest}
    (h : Answers request answered) : answered.val.request.id = request.val.request.id := by
  rw [h.val]

/-- An answered request is not pending. -/
lemma Answers.isPending {request answered : Checked SourcedClarificationRequest}
    (h : Answers request answered) : answered.val.isPending = false := by
  rw [h.val]
  rfl

/-- A request can be answered: its other fields have been checked before. -/
lemma exists_answers (request : Checked SourcedClarificationRequest) :
    ∃ answered, construct { request.val with status := some .answered } = .ok answered ∧
      Answers request answered := by
  have hcheck : Record.postInit { request.val with status := some .answered } = .ok () :=
    request.property
  exact ⟨_, construct_of_postInit hcheck, ⟨rfl⟩⟩

namespace ClarificationFields

/-- The effect of a call that answers the first request with the identifier. -/
structure Ingested (st st' : ClarificationFields) (answer : Checked ClarificationAnswer)
    (before after : List (Checked SourcedClarificationRequest))
    (request answered : Checked SourcedClarificationRequest) : Prop where
  requests : st.clarificationRequests = before ++ request :: after
  hidden : ∀ other ∈ before, other.val.request.id ≠ answer.val.requestId
  id : request.val.request.id = answer.val.requestId
  pending : request.val.isPending = true
  answers : Answers request answered
  requests' : st'.clarificationRequests = before ++ answered :: after
  clarifications : st'.clarifications = st.clarifications ++ [answer]
  pendingIds : st'.pendingClarificationIds =
    st.pendingClarificationIds.filter fun id => id ≠ answer.val.requestId
  readyIds : ∀ id, id ∈ st'.readyClarificationIds ↔
    id ∈ st.readyClarificationIds ∨ id = answer.val.requestId

/-- A call that raises has changed nothing; another one has answered the first request. -/
lemma ingest_cases (st : ClarificationFields) (answer : Checked ClarificationAnswer) :
    (∃ e, st.ingest answer = (.error e, st) ∧
      ∀ first others, requestsNamed st.clarificationRequests answer.val.requestId = first ::
        others →
        first.val.isPending = false) ∨
    ∃ st' before after request answered, st.ingest answer = (.ok (), st') ∧
      Ingested st st' answer before after request answered := by
  cases hfind : pendingRequest st.clarificationRequests answer.val.requestId with
  | error e =>
    refine .inl ⟨e, ?_, pendingRequestFrom_eq_error.1 ⟨e, hfind⟩⟩
    simp only [ingest, hfind]
  | ok found =>
    obtain ⟨index, request⟩ := found
    obtain ⟨before, after, hrequests, rfl, hhidden, hid, hpending⟩ := pendingRequestFrom_eq_ok hfind
    obtain ⟨answered, hconstruct, hanswers⟩ := exists_answers request
    have hne : answer.val.requestId ≠ [] := hid ▸ clarificationRequest_id_ne_nil request
    have hstatus : Record.postInit (⟨answer.val.requestId, .answered, none⟩ : ClarificationStatus) =
        .ok () := by
      simp only [Record.postInit, check_bind_eq_ok, requireNonEmpty_eq_ok]
      exact ⟨hne, rfl⟩
    have hst : st.ingest answer = (.ok (), {
        clarificationRequests := st.clarificationRequests.set (0 + before.length) answered
        clarifications := st.clarifications ++ [answer]
        clarificationStatus := Table.set st.clarificationStatus answer.val.requestId ⟨_, hstatus⟩
        pendingClarificationIds :=
          st.pendingClarificationIds.filter fun id => id ≠ answer.val.requestId
        readyClarificationIds :=
          if answer.val.requestId ∈ st.readyClarificationIds then st.readyClarificationIds
          else st.readyClarificationIds ++ [answer.val.requestId] }) := by
      simp only [ingest, hfind, hconstruct, construct_of_postInit hstatus]
    refine .inr ⟨_, before, after, request, answered, hst, ?_⟩
    refine ⟨hrequests, hhidden, hid, hpending, hanswers, ?_, rfl, rfl, fun id => ?_⟩
    · dsimp only
      rw [hrequests, Nat.zero_add, List.set_append_right _ _ le_rfl, Nat.sub_self,
        List.set_cons_zero]
    · dsimp only
      split
      · rename_i hready
        exact ⟨.inl, fun h => h.elim (fun h => h) fun h => h ▸ hready⟩
      · rw [List.mem_append, List.mem_singleton]

variable {st st' : ClarificationFields} {answer : Checked ClarificationAnswer}
  {before after : List (Checked SourcedClarificationRequest)}
  {request answered : Checked SourcedClarificationRequest}

/-- The requests with the identifier, before the call. -/
lemma Ingested.named (h : Ingested st st' answer before after request answered) :
    requestsNamed st.clarificationRequests answer.val.requestId =
      request :: requestsNamed after answer.val.requestId := by
  rw [h.requests, requestsNamed_append, requestsNamed_eq_nil h.hidden, List.nil_append,
    requestsNamed_cons_self h.id]

/-- The requests with the identifier, after it. -/
lemma Ingested.named_self (h : Ingested st st' answer before after request answered) :
    requestsNamed st'.clarificationRequests answer.val.requestId =
      answered :: requestsNamed after answer.val.requestId := by
  rw [h.requests', requestsNamed_append, requestsNamed_eq_nil h.hidden, List.nil_append,
    requestsNamed_cons_self (h.answers.id.trans h.id)]

/-- The requests with another identifier stay. -/
lemma Ingested.named_of_ne (h : Ingested st st' answer before after request answered) {id : Text}
    (hne : id ≠ answer.val.requestId) :
    requestsNamed st'.clarificationRequests id = requestsNamed st.clarificationRequests id := by
  have hrequest : request.val.request.id ≠ id := h.id ▸ hne.symm
  rw [h.requests', h.requests, requestsNamed_append, requestsNamed_append,
    requestsNamed_cons_of_ne hrequest, requestsNamed_cons_of_ne (h.answers.id ▸ hrequest)]

/-- What the gate lists as pending after the call, when the request was the only pending one. -/
lemma Ingested.gate_pendingIds (h : Ingested st st' answer before after request answered)
    (honly : ∀ other ∈ requestsNamed after answer.val.requestId, other.val.isPending = false) :
    (evaluateClarificationGate st'.clarificationRequests).pendingIds =
      (evaluateClarificationGate st.clarificationRequests).pendingIds.filter
        fun id => id ≠ answer.val.requestId := by
  have hkeep : ∀ requests : List (Checked SourcedClarificationRequest),
      (∀ other ∈ requestsNamed requests answer.val.requestId, other.val.isPending = false) →
      (evaluateClarificationGate requests).pendingIds.filter (fun id => id ≠ answer.val.requestId) =
        (evaluateClarificationGate requests).pendingIds := by
    intro requests hnone
    refine List.filter_eq_self.2 fun id hid => decide_eq_true ?_
    rintro rfl
    obtain ⟨other, hother, hpending⟩ := mem_pendingIds.1 hid
    rw [hnone other hother] at hpending
    contradiction
  have hsplit : ∀ (first : Checked SourcedClarificationRequest),
      (evaluateClarificationGate (before ++ first :: after)).pendingIds =
        (evaluateClarificationGate before).pendingIds ++
          ((if first.val.isPending then [first.val.request.id] else []) ++
            (evaluateClarificationGate after).pendingIds) := by
    intro first
    simp only [evaluateClarificationGate, List.filter_append, List.map_append, List.filter_cons]
    split <;> simp
  have hbefore : ∀ other ∈ requestsNamed before answer.val.requestId,
      other.val.isPending = false := by
    rw [requestsNamed_eq_nil h.hidden]
    simp
  rw [h.requests, h.requests', hsplit, hsplit, if_pos h.pending,
    if_neg (by simp [h.answers.isPending]),
    List.nil_append, List.filter_append, List.filter_append, hkeep before hbefore,
    hkeep after honly, h.id]
  simp

end ClarificationFields

/-! ## Agreement -/

/-- Among the requests with one identifier only the first one is pending, or the first one is not
pending and no one behind it blocks. -/
def OnlyFirstPends : List (Checked SourcedClarificationRequest) → Prop
  | [] => True
  | first :: others =>
    if first.val.isPending then ∀ other ∈ others, other.val.isPending = false
    else ∀ other ∈ others, other.val.isPending = true → other.val.request.blocksVerdict = false

namespace ClarificationFields

/-- The identifiers that are ready belong to answered requests, and to no pending one. -/
def ReadyAnswered (requests : List (Checked SourcedClarificationRequest)) (readyIds : List Text) :
    Prop :=
  ∀ id ∈ readyIds, (∃ request ∈ requestsNamed requests id, request.val.status = some .answered) ∧
    ∀ request ∈ requestsNamed requests id, request.val.isPending = false

/-- The gate and the ingestion agree. -/
structure Agrees (st : ClarificationFields) : Prop where
  /-- The identifiers that block can be answered, and then block no longer. -/
  ingestible : ∀ answer : Checked ClarificationAnswer,
    answer.val.requestId ∈ (evaluateClarificationGate st.clarificationRequests).blockingPendingIds →
    (st.ingest answer).1 = .ok () ∧ answer.val.requestId ∉
      (evaluateClarificationGate (st.ingest answer).2.clarificationRequests).blockingPendingIds
  /-- The pending identifiers are those of the pending requests. -/
  pending : st.pendingClarificationIds = (evaluateClarificationGate
    st.clarificationRequests).pendingIds
  /-- The ready identifiers are those of answered requests. -/
  ready : ReadyAnswered st.clarificationRequests st.readyClarificationIds
  /-- No identifier is pending and ready. -/
  disjoint : List.Disjoint st.pendingClarificationIds st.readyClarificationIds
  /-- A call that raises changes nothing. -/
  unchanged : ∀ answer e, (st.ingest answer).1 = .error e → (st.ingest answer).2 = st

/-- The answers of a sequence of calls that have been recorded have distinct identifiers. -/
def AnsweredOnce (st : ClarificationFields) (answers : List (Checked ClarificationAnswer)) : Prop :=
  ∃ recorded, List.Sublist recorded answers ∧
    (st.ingestAll answers).clarifications = st.clarifications ++ recorded ∧
    (recorded.map fun answer => answer.val.requestId).Nodup

/-- The state from which the agreement follows. -/
structure Settled (st : ClarificationFields) : Prop where
  onlyFirst : ∀ id, OnlyFirstPends (requestsNamed st.clarificationRequests id)
  pending : st.pendingClarificationIds = (evaluateClarificationGate
    st.clarificationRequests).pendingIds
  ready : ReadyAnswered st.clarificationRequests st.readyClarificationIds

/-- A call that raises changes nothing, in any state. -/
lemma ingest_unchanged (st : ClarificationFields) (answer : Checked ClarificationAnswer)
    {e : PyError}
    (h : (st.ingest answer).1 = .error e) : (st.ingest answer).2 = st := by
  rcases st.ingest_cases answer with ⟨_, hst, -⟩ | ⟨st', _, _, _, _, hst, -⟩
  · rw [hst]
  · rw [hst] at h
    contradiction

/-- One call keeps the state settled. -/
lemma Settled.ingest {st : ClarificationFields} (h : st.Settled)
    (answer : Checked ClarificationAnswer) : (st.ingest answer).2.Settled := by
  rcases st.ingest_cases answer with ⟨_, hst, -⟩ | ⟨st', before, after, request, answered, hst,
      hstep⟩
  · rw [hst]
    exact h
  rw [hst]
  have hfirst := h.onlyFirst answer.val.requestId
  rw [hstep.named, OnlyFirstPends, if_pos hstep.pending] at hfirst
  refine ⟨fun id => ?_, ?_, fun id hid => ?_⟩
  · by_cases hne : id = answer.val.requestId
    · subst hne
      rw [hstep.named_self, OnlyFirstPends, if_neg (by simp [hstep.answers.isPending])]
      intro other hother hpending
      rw [hfirst other hother] at hpending
      contradiction
    · rw [hstep.named_of_ne hne]
      exact h.onlyFirst id
  · rw [hstep.pendingIds, hstep.gate_pendingIds hfirst, h.pending]
  · by_cases hne : id = answer.val.requestId
    · subst hne
      rw [hstep.named_self]
      refine ⟨⟨answered, List.mem_cons_self, by rw [hstep.answers.val]⟩, ?_⟩
      rw [List.forall_mem_cons]
      exact ⟨hstep.answers.isPending, hfirst⟩
    · rw [hstep.named_of_ne hne]
      exact h.ready id (((hstep.readyIds id).1 hid).resolve_right hne)

/-- A settled state stays settled over a sequence of calls. -/
lemma Settled.ingestAll {st : ClarificationFields} (h : st.Settled)
    (answers : List (Checked ClarificationAnswer)) : (st.ingestAll answers).Settled := by
  induction answers generalizing st with
  | nil => exact h
  | cons answer answers ih => exact ih (h.ingest answer)

/-- In a settled state the gate and the ingestion agree. -/
lemma Settled.agrees {st : ClarificationFields} (h : st.Settled) : st.Agrees where
  ingestible answer hblocking := by
    obtain ⟨other, hother, hpending, hblocks⟩ := mem_blockingPendingIds.1 hblocking
    have hfirst := h.onlyFirst answer.val.requestId
    rcases st.ingest_cases answer with ⟨_, -, hnot⟩ | ⟨st', before, after, request, answered, hst,
        hstep⟩
    · cases hnamed : requestsNamed st.clarificationRequests answer.val.requestId with
      | nil =>
        rw [hnamed] at hother
        contradiction
      | cons first others =>
        have hanswered := hnot first others hnamed
        rw [hnamed] at hother
        rw [hnamed, OnlyFirstPends, if_neg (by simp [hanswered])] at hfirst
        rcases List.mem_cons.1 hother with rfl | hother
        · rw [hanswered] at hpending
          contradiction
        · rw [hfirst other hother hpending] at hblocks
          contradiction
    · rw [hst]
      refine ⟨rfl, fun hstill => ?_⟩
      obtain ⟨late, hlate, hlatePending, -⟩ := mem_blockingPendingIds.1 hstill
      rw [hstep.named, OnlyFirstPends, if_pos hstep.pending] at hfirst
      rw [hstep.named_self] at hlate
      rcases List.mem_cons.1 hlate with rfl | hlate
      · rw [hstep.answers.isPending] at hlatePending
        contradiction
      · rw [hfirst late hlate] at hlatePending
        contradiction
  pending := h.pending
  ready := h.ready
  disjoint := by
    intro id hpending hready
    rw [h.pending] at hpending
    obtain ⟨request, hrequest, hpending⟩ := mem_pendingIds.1 hpending
    rw [(h.ready id hready).2 request hrequest] at hpending
    contradiction
  unchanged answer _ := st.ingest_unchanged answer

/-- Each request is answered at most once, whatever the state: the first one with the identifier is
pending before the call that answers it, and no longer after it. -/
lemma ingestAll_recorded (answers : List (Checked ClarificationAnswer)) :
    ∀ st : ClarificationFields, ∃ recorded, List.Sublist recorded answers ∧
      (st.ingestAll answers).clarifications = st.clarifications ++ recorded ∧
      (recorded.map fun answer => answer.val.requestId).Nodup ∧
      ∀ answer ∈ recorded, ∃ first others,
        requestsNamed st.clarificationRequests answer.val.requestId = first :: others ∧
        first.val.isPending = true := by
  induction answers with
  | nil => exact fun st => ⟨[], .slnil, (List.append_nil _).symm, .nil, by simp⟩
  | cons answer answers ih =>
    intro st
    obtain ⟨recorded, hsub, hrecorded, hnodup, hfirst⟩ := ih (st.ingest answer).2
    rcases st.ingest_cases answer with ⟨_, hst, -⟩ | ⟨st', before, after, request, answered, hst,
        hstep⟩
    · rw [hst] at hrecorded hfirst
      refine ⟨recorded, hsub.cons _, ?_, hnodup, hfirst⟩
      rw [← hrecorded, ingestAll, List.foldl_cons, hst]
      rfl
    · rw [hst] at hrecorded hfirst
      have hother : ∀ late ∈ recorded, late.val.requestId ≠ answer.val.requestId := by
        intro late hlate hsame
        obtain ⟨first, others, hnamed, hpending⟩ := hfirst late hlate
        rw [hsame, hstep.named_self] at hnamed
        obtain ⟨rfl, -⟩ := List.cons.inj hnamed
        rw [hstep.answers.isPending] at hpending
        contradiction
      refine ⟨answer :: recorded, hsub.cons_cons _, ?_, ?_, ?_⟩
      · rw [ingestAll, List.foldl_cons, hst]
        refine hrecorded.trans ?_
        rw [hstep.clarifications, List.append_assoc, List.singleton_append]
      · rw [List.map_cons, List.nodup_cons]
        refine ⟨fun hmem => ?_, hnodup⟩
        obtain ⟨late, hlate, hsame⟩ := List.mem_map.1 hmem
        exact hother late hlate hsame
      · rw [List.forall_mem_cons]
        refine ⟨⟨request, _, hstep.named, hstep.pending⟩, fun late hlate => ?_⟩
        rw [← hstep.named_of_ne (hother late hlate)]
        exact hfirst late hlate

/-- After every sequence of answers no request is answered twice. -/
lemma answeredOnce (st : ClarificationFields) (answers : List (Checked ClarificationAnswer)) :
    st.AnsweredOnce answers := by
  obtain ⟨recorded, hsub, hrecorded, hnodup, -⟩ := ingestAll_recorded answers st
  exact ⟨recorded, hsub, hrecorded, hnodup⟩

end ClarificationFields

namespace ClarificationFields

/-! ## The agreement -/

/-- There is an answer for each identifier of a request. -/
lemma exists_answer (request : Checked SourcedClarificationRequest) :
    ∃ answer : Checked ClarificationAnswer, answer.val.requestId = request.val.request.id := by
  have hid := clarificationRequest_id_ne_nil request
  refine ⟨⟨⟨request.val.request.id, request.val.request.id, request.val.request.id,
    request.val.request.id, request.val.request.id⟩, ?_⟩, rfl⟩
  simp only [Record.postInit, check_bind_eq_ok, requireNonEmpty_eq_ok]
  exact ⟨hid, hid, hid, hid, hid⟩

/-- Where every call is in agreement, no pending request hides behind another one. -/
lemma onlyFirstPends_of_agrees {st : ClarificationFields} (h : st.Agrees)
    (hcalls : ∀ answer, (st.ingest answer).2.Agrees) (id : Text) :
    OnlyFirstPends (requestsNamed st.clarificationRequests id) := by
  cases hnamed : requestsNamed st.clarificationRequests id with
  | nil => trivial
  | cons first others =>
    have hfirst : first ∈ requestsNamed st.clarificationRequests id := hnamed ▸ List.mem_cons_self
    obtain ⟨answer, hanswer⟩ := exists_answer first
    obtain rfl : answer.val.requestId = id := hanswer.trans (mem_requestsNamed.1 hfirst).2
    rcases st.ingest_cases answer with ⟨e, hst, hnot⟩ | ⟨st', before, after, request, answered, hst,
        hstep⟩
    · -- The first request is not pending, and an answer is refused.
      rw [OnlyFirstPends, if_neg (by simp [hnot first others hnamed])]
      intro other hother hpending
      by_contra hblocks
      have hblocking : answer.val.requestId ∈
          (evaluateClarificationGate st.clarificationRequests).blockingPendingIds :=
        mem_blockingPendingIds.2 ⟨other, hnamed ▸ List.mem_cons_of_mem _ hother, hpending,
          Bool.not_eq_false _ ▸ hblocks⟩
      have hok := (h.ingestible answer hblocking).1
      rw [hst] at hok
      contradiction
    · -- The first request is answered, and its identifier is no longer listed as pending.
      have hcons := hstep.named.symm.trans hnamed
      obtain ⟨rfl, rfl⟩ := List.cons.inj hcons
      rw [OnlyFirstPends, if_pos hstep.pending]
      intro other hother
      by_contra hpending
      have hlisted : answer.val.requestId ∈
          (evaluateClarificationGate st'.clarificationRequests).pendingIds :=
        mem_pendingIds.2 ⟨other, hstep.named_self ▸ List.mem_cons_of_mem _ hother,
          Bool.not_eq_false _ ▸ hpending⟩
      have hkept := (hcalls answer).pending
      rw [hst] at hkept
      rw [← hkept, hstep.pendingIds] at hlisted
      simpa using (List.mem_filter.1 hlisted).2

/-- The gate and the ingestion agree over every sequence of calls exactly when no pending request
hides behind another one with its identifier and the ready identifiers belong to answered
requests. -/
theorem ingestAll_agrees_iff (st : ClarificationFields)
    (requests : List (Checked SourcedClarificationRequest)) :
    (∀ answers, ((st.openRound requests).ingestAll answers).Agrees ∧
      (st.openRound requests).AnsweredOnce answers) ↔
    (∀ id, OnlyFirstPends (requestsNamed requests id)) ∧
      ReadyAnswered requests st.readyClarificationIds := by
  constructor
  · intro h
    have hstart : (st.openRound requests).Agrees := (h []).1
    have hcalls : ∀ answer, ((st.openRound requests).ingest answer).2.Agrees :=
      fun answer => (h [answer]).1
    exact ⟨onlyFirstPends_of_agrees hstart hcalls, hstart.ready⟩
  · rintro ⟨honly, hready⟩ answers
    have hsettled : (st.openRound requests).Settled := ⟨honly, rfl, hready⟩
    exact ⟨(hsettled.ingestAll answers).agrees, answeredOnce _ answers⟩

/-- The requests of a reviewer that asks again, under the identifier of a request that has been
answered. -/
def askedAgain : List SourcedClarificationRequest :=
  [some .answered, none].map fun status => {
    request := {
      id := "q"
      reviewer := "general"
      question := "Is this intended?"
      whyItMatters := "It changes the interface."
      blocksVerdict := true
      evidenceSources := []
      evidenceMemoryIds := [] }
    sourceStage := none
    sourceRunKey := none
    status
    resumeTargetStage := none
    resumeTargetReviewers := [] }

/-- The requests are valid. -/
lemma askedAgain_checks : ∀ request ∈ askedAgain, Record.postInit request = .ok () := by
  decide +kernel

/-- The answer is valid. -/
lemma askedAgain_answer_checks :
    Record.postInit (⟨"a", "q", "Yes.", "octocat", "now"⟩ : ClarificationAnswer) = .ok () := by
  decide +kernel

/-- The gate reports an identifier as blocking, and its answer is refused. -/
theorem ingest_askedAgain :
    ∃ (st : ClarificationFields) (answer : Checked ClarificationAnswer),
      st.clarificationRequests.map Subtype.val = askedAgain ∧
      st = st.openRound st.clarificationRequests ∧ answer.val.requestId = "q" ∧
      (evaluateClarificationGate st.clarificationRequests).blockingPendingIds = ["q"] ∧
      (st.ingest answer).1 = .error (.valueError "clarification request q is not pending") := by
  refine ⟨(⟨[], [], [], [], []⟩ : ClarificationFields).openRound
    (askedAgain.attach.map fun request => ⟨request.1, askedAgain_checks request.1 request.2⟩),
    ⟨_, askedAgain_answer_checks⟩, ?_, rfl, rfl, ?_, ?_⟩
  · decide +kernel
  · decide +kernel
  · decide +kernel

end ClarificationFields

end ReviewGraph
