import ReviewGraph.ConversationMemory
import ReviewGraph.DiffAnchors
import ReviewGraph.FindingSupport
import ReviewGraph.PagedReads

/-!
# Review threads

`_review_threads_from_payloads` of `github.py`: the review comments of all pages are grouped by
their threads, and the read fails closed if a comment names a thread that no page has delivered.
-/

namespace ReviewGraph

/-! ## Comments -/

/-- `_optional_positive_int`. -/
def optionalPositiveInt (data : List (Text × Json)) (key label : Text) : Result (Option ℤ) :=
  match Json.lookup data key with
  | none | some .null => .ok none
  | some (.int n) =>
    if 0 < n then .ok (some n)
    else .error (.valueError (label ++ (" " ++ (key ++ " must be a positive integer or null"))))
  | some _ =>
    .error (.valueError (label ++ (" " ++ (key ++ " must be a positive integer or null"))))

/-- `_comment_from_payload`. -/
def commentFromPayload (payload : List (Text × Json)) (sourceType : Text) :
    Result (Checked PullRequestComment) := do
  let label : Text := "pull request comment"
  let id ← requiredStr payload "id" label
  let author ← requiredStr payload "author" label
  let authorAssociation ← requiredStr payload "author_association" label
  let authorType ← requiredStr payload "author_type" label
  let body ← requiredStr payload "body" label
  let createdAt ← requiredStr payload "created_at" label
  let url ← optionalStr payload "url" label
  let path ← optionalStr payload "path" label
  let line ← optionalPositiveInt payload "line" label
  let side ← optionalStr payload "side" label
  let commitSha ← optionalStr payload "commit_sha" label
  let position ← optionalPositiveInt payload "position" label
  construct {
    id, author, authorAssociation, authorType, body, createdAt, trustLabel := "untrusted",
      sourceType
    url, path, line, side, commitSha, position, sourceProvider := "github" }

/-- A review comment with the thread that it names. -/
structure PlacedComment where
  threadId : Text
  comment : Checked PullRequestComment
  deriving DecidableEq

/-- The round of the loop over the review comments for one payload. -/
def readReviewComment (payload : List (Text × Json)) : Result PlacedComment := do
  let threadId ← requiredStr payload "thread_id" "review comment"
  let comment ← commentFromPayload payload "review_thread"
  return ⟨threadId, comment⟩

/-- The comments of a thread in `comments_by_thread`. -/
def commentsByThread (placed : List PlacedComment) (threadId : Text) :
    List (Checked PullRequestComment) :=
  (placed.filter fun p => p.threadId = threadId).map PlacedComment.comment

/-! ## Threads -/

/-- The identifier of a payload of a thread. -/
def readThreadId (payload : List (Text × Json)) : Result Text :=
  requiredStr payload "id" "review thread"

/-- The round of the loop over the threads for one payload; a thread without comments is left
out. -/
def readReviewThread (placed : List PlacedComment) (payload : List (Text × Json)) :
    Result (Option (Checked PullRequestReviewThread)) := do
  let threadId ← readThreadId payload
  let comments := commentsByThread placed threadId
  if comments = [] then return none
  else
    let path ← requiredStr payload "path" "review thread"
    let resolvedStatus ← requiredStr payload "resolved_status" "review thread"
    let thread ← construct { id := threadId, path, resolvedStatus, comments }
    return some thread

/-- The threads that comments name and no page has delivered. -/
def orphanIds (placed : List PlacedComment) (known : List Text) : List Text :=
  Text.sorted ((placed.map PlacedComment.threadId).dedup.filter (· ∉ known))

/-- The message about the comments of unknown threads. -/
def orphanMessage (placed : List PlacedComment) (orphans : List Text) : Text :=
  let commentIds := orphans.flatMap fun threadId =>
    (commentsByThread placed threadId).map fun comment => comment.val.id
  "review comments without thread state: " ++ (Text.join ", " (Text.sorted commentIds) ++
    (" (threads: " ++ (Text.join ", " orphans ++ ")")))

/-- `_review_threads_from_payloads`. -/
def reviewThreadsFromPayloads (prRef : GitHubPRRef) (reviewTarget : ReviewTarget)
    (reviewCommentPayloads threadPayloads : List (List (Text × Json))) :
    Result (List (Checked PullRequestReviewThread) ⊕ FailClosedReadOutcome) := do
  let placed ← reviewCommentPayloads.mapM readReviewComment
  let known ← threadPayloads.mapM readThreadId
  let orphans := orphanIds placed known
  if orphans ≠ [] then
    return .inr (paginationFailure prRef reviewTarget "thread_state" 1 "thread_state_unknown"
      (orphanMessage placed orphans))
  else
    let threads ← threadPayloads.mapM (readReviewThread placed)
    return .inl threads.reduceOption

/-! ## What is read -/

/-- A required text is found and not empty. -/
lemma requiredStr_eq_ok {data : List (Text × Json)} {key label value : Text} :
    requiredStr data key label = .ok value ↔
      Json.lookup data key = some (.str value) ∧ value ≠ [] := by
  unfold requiredStr
  split
  · rename_i c text h
    rw [h]
    constructor
    · intro heq
      obtain rfl := Except.ok.inj heq
      exact ⟨rfl, List.cons_ne_nil c text⟩
    · rintro ⟨heq, -⟩
      exact congrArg Except.ok (Json.str.inj (Option.some.inj heq))
  · rename_i hother
    constructor
    · intro heq
      contradiction
    · rintro ⟨heq, hne⟩
      obtain ⟨c, text, rfl⟩ := List.exists_cons_of_ne_nil hne
      exact absurd heq (hother c text)

/-- The identifiers of a review comment are those of its payload, and it comes from a thread of
GitHub. -/
lemma readReviewComment_eq_ok {payload : List (Text × Json)} {p : PlacedComment}
    (h : readReviewComment payload = .ok p) :
    Json.lookup payload "thread_id" = some (.str p.threadId) ∧
      Json.lookup payload "id" = some (.str p.comment.val.id) ∧
      p.comment.val.sourceType = "review_thread" ∧ p.comment.val.sourceProvider = "github" := by
  unfold readReviewComment commentFromPayload at h
  obtain ⟨threadId, hthread, h⟩ := bind_eq_ok.1 h
  obtain ⟨comment, hcomment, h⟩ := bind_eq_ok.1 h
  obtain rfl := pure_eq_ok.1 h
  obtain ⟨id, hid, hcomment⟩ := bind_eq_ok.1 hcomment
  simp only [bind_eq_ok] at hcomment
  obtain ⟨_, -, _, -, _, -, _, -, _, -, _, -, _, -, _, -, _, -, _, -, _, -, hconstruct⟩ := hcomment
  have hval := construct_eq_ok.1 hconstruct
  refine ⟨(requiredStr_eq_ok.1 hthread).1, ?_, ?_, ?_⟩
  · rw [hval]
    exact (requiredStr_eq_ok.1 hid).1
  · rw [hval]
  · rw [hval]

/-- The comments of a thread are those placed in it. -/
@[simp] lemma mem_commentsByThread {placed : List PlacedComment} {threadId : Text}
    {comment : Checked PullRequestComment} :
    comment ∈ commentsByThread placed threadId ↔ ⟨threadId, comment⟩ ∈ placed := by
  unfold commentsByThread
  simp only [List.mem_map, List.mem_filter, decide_eq_true_eq]
  constructor
  · rintro ⟨p, ⟨hp, rfl⟩, rfl⟩
    exact hp
  · intro h
    exact ⟨_, ⟨h, rfl⟩, rfl⟩

/-- The identifiers of the threads that are returned: those that a comment names. -/
def namedThreads (placed : List PlacedComment) (known : List Text) : List Text :=
  known.filter fun threadId => threadId ∈ placed.map PlacedComment.threadId

/-- A thread without comments is none that is placed. -/
lemma commentsByThread_eq_nil {placed : List PlacedComment} {threadId : Text} :
    commentsByThread placed threadId = [] ↔ threadId ∉ placed.map PlacedComment.threadId := by
  unfold commentsByThread
  rw [List.map_eq_nil_iff, List.filter_eq_nil_iff, List.mem_map]
  simp

/-- A thread without comments is not read. -/
lemma readReviewThread_none {placed : List PlacedComment} {payload : List (Text × Json)}
    {threadId : Text}
    (hid : readThreadId payload = .ok threadId) (h : readReviewThread placed payload = .ok none) :
    threadId ∉ placed.map PlacedComment.threadId := by
  unfold readReviewThread at h
  rw [hid, ok_bind] at h
  by_cases hnil : commentsByThread placed threadId = []
  · exact commentsByThread_eq_nil.1 hnil
  · simp only [if_neg hnil, bind_eq_ok, pure_eq_ok] at h
    obtain ⟨_, -, _, -, thread, -, h⟩ := h
    contradiction

/-- A thread with comments has these. -/
lemma readReviewThread_some {placed : List PlacedComment} {payload : List (Text × Json)}
    {threadId : Text}
    {thread : Checked PullRequestReviewThread} (hid : readThreadId payload = .ok threadId)
    (h : readReviewThread placed payload = .ok (some thread)) :
    threadId ∈ placed.map PlacedComment.threadId ∧ thread.val.id = threadId ∧
      thread.val.comments = commentsByThread placed threadId := by
  unfold readReviewThread at h
  rw [hid, ok_bind] at h
  by_cases hnil : commentsByThread placed threadId = []
  · simp only [if_pos hnil, pure_eq_ok] at h
    contradiction
  · simp only [if_neg hnil, bind_eq_ok, pure_eq_ok] at h
    obtain ⟨path, -, status, -, thread', hthread, h⟩ := h
    obtain rfl := Option.some.inj h
    have hval := construct_eq_ok.1 hthread
    refine ⟨not_not.1 (fun hnot => hnil (commentsByThread_eq_nil.2 hnot)), ?_, ?_⟩
    · rw [hval]
    · rw [hval]

/-- The threads that are returned have the identifiers that a comment names, each with its
comments. -/
lemma readReviewThreads_eq {placed : List PlacedComment} {payloads : List (List (Text × Json))}
    {known : List Text} {read : List (Option (Checked PullRequestReviewThread))}
    (hknown : List.Forall₂ (fun payload id => readThreadId payload = .ok id) payloads known)
    (hread : List.Forall₂ (fun payload thread => readReviewThread placed payload = .ok thread)
      payloads
      read) :
    read.reduceOption.map (fun thread => (thread.val.id, thread.val.comments)) =
      (namedThreads placed known).map fun threadId =>
      (threadId, commentsByThread placed threadId) := by
  induction hknown generalizing read with
  | nil =>
    obtain rfl := List.forall₂_nil_left_iff.1 hread
    rfl
  | cons hid _ ih =>
    obtain ⟨thread, rest, hthread, hrest, rfl⟩ := List.forall₂_cons_left_iff.1 hread
    unfold namedThreads at ih ⊢
    cases thread with
    | none =>
      have hnot := readReviewThread_none hid hthread
      rw [List.reduceOption_cons_of_none, List.filter_cons_of_neg (by simpa using hnot)]
      exact ih hrest
    | some thread =>
      obtain ⟨hmem, hthreadId, hcomments⟩ := readReviewThread_some hid hthread
      rw [List.reduceOption_cons_of_some, List.filter_cons_of_pos (by simpa using hmem),
        List.map_cons,
        List.map_cons, ih hrest, hthreadId, hcomments]

/-- What a call that returns threads has read. -/
structure ReadsThreads (comments threadPayloads : List (List (Text × Json)))
    (placed : List PlacedComment)
    (known : List Text) (threads : List (Checked PullRequestReviewThread)) : Prop where
  comments : List.Forall₂ (fun payload p => readReviewComment payload = .ok p) comments placed
  ids : List.Forall₂ (fun payload id => readThreadId payload = .ok id) threadPayloads known
  delivered : ∀ p ∈ placed, p.threadId ∈ known
  threads : threads.map (fun thread => (thread.val.id, thread.val.comments)) =
    (namedThreads placed known).map fun threadId => (threadId, commentsByThread placed threadId)

/-- There is no orphan exactly if all threads are known. -/
lemma orphanIds_eq_nil {placed : List PlacedComment} {known : List Text} :
    orphanIds placed known = [] ↔ ∀ p ∈ placed, p.threadId ∈ known := by
  unfold orphanIds
  rw [← List.perm_nil, (Text.sorted_perm _).congr_left, List.perm_nil, List.filter_eq_nil_iff]
  simp

/-- What is returned was read. -/
lemma ReadsThreads.of_returned {prRef : GitHubPRRef} {reviewTarget : ReviewTarget}
    {comments threadPayloads : List (List (Text × Json))}
    {threads : List (Checked PullRequestReviewThread)}
    (h : reviewThreadsFromPayloads prRef reviewTarget comments threadPayloads = .ok
      (.inl threads)) :
    ∃ placed known, ReadsThreads comments threadPayloads placed known threads := by
  unfold reviewThreadsFromPayloads at h
  obtain ⟨placed, hplaced, h⟩ := bind_eq_ok.1 h
  obtain ⟨known, hknown, h⟩ := bind_eq_ok.1 h
  by_cases horphans : orphanIds placed known = []
  · simp only [horphans, ne_eq, not_true_eq_false, if_false] at h
    obtain ⟨read, hread, h⟩ := bind_eq_ok.1 h
    obtain rfl := Sum.inl.inj (pure_eq_ok.1 h)
    have hknown := mapM_eq_ok.1 hknown
    exact ⟨placed, known, mapM_eq_ok.1 hplaced, hknown, orphanIds_eq_nil.1 horphans,
      readReviewThreads_eq hknown (mapM_eq_ok.1 hread)⟩
  · simp only [ne_eq, horphans, not_false_eq_true, if_true, pure_eq_ok] at h
    contradiction

/-! ## Comments that are placed once -/

/-- The identifiers of the threads with those of their comments. -/
def placements (threads : List (Checked PullRequestReviewThread)) : List (Text × Text) :=
  threads.flatMap fun thread => thread.val.comments.map fun comment =>
    (thread.val.id, comment.val.id)

/-- How many threads hold a comment. -/
def holders (threads : List (Checked PullRequestReviewThread)) (commentId : Text) : ℕ :=
  threads.countP fun thread => commentId ∈ thread.val.comments.map fun comment => comment.val.id

/-- The identifiers of the comments of a thread. -/
def commentIds (placed : List PlacedComment) (threadId : Text) : List Text :=
  (commentsByThread placed threadId).map fun comment => comment.val.id

/-- The identifiers of the comments of a thread. -/
lemma mem_commentIds {placed : List PlacedComment} {threadId id : Text} :
    id ∈ commentIds placed threadId ↔ ∃ p ∈ placed, p.threadId = threadId ∧
      p.comment.val.id = id := by
  unfold commentIds
  simp only [List.mem_map, mem_commentsByThread]
  constructor
  · rintro ⟨comment, hmem, rfl⟩
    exact ⟨_, hmem, rfl, rfl⟩
  · rintro ⟨p, hp, rfl, rfl⟩
    exact ⟨p.comment, hp, rfl⟩

/-- The comments of a thread are counted by their identifiers. -/
lemma count_commentIds (placed : List PlacedComment) (threadId id : Text) :
    (commentIds placed threadId).count id =
      placed.countP fun p => decide (p.comment.val.id = id) && decide (p.threadId = threadId) := by
  unfold commentIds commentsByThread
  rw [List.map_map, List.count, List.countP_map, List.countP_filter]
  simp only [Function.comp_def, beq_eq_decide]

section Read

variable {comments threadPayloads : List (List (Text × Json))} {placed : List PlacedComment}
  {known : List Text} {threads : List (Checked PullRequestReviewThread)}

/-- The placements, thread by thread. -/
lemma ReadsThreads.placements_eq (h : ReadsThreads comments threadPayloads placed known threads) :
    placements threads = (namedThreads placed known).flatMap fun threadId =>
      (commentIds placed threadId).map fun id => (threadId, id) := by
  have hflat := congrArg (List.flatMap fun entry : Text × List (Checked PullRequestComment) =>
    entry.2.map fun comment => (entry.1, comment.val.id)) h.threads
  rw [List.flatMap_map, List.flatMap_map] at hflat
  unfold placements commentIds
  simpa only [List.map_map, Function.comp_def] using hflat

/-- How many threads hold a comment. -/
lemma ReadsThreads.holders_eq (h : ReadsThreads comments threadPayloads placed known threads)
    (id : Text) :
    holders threads id =
      (namedThreads placed known).countP fun threadId => id ∈ commentIds placed threadId := by
  have hcount := congrArg (List.countP fun entry : Text × List (Checked PullRequestComment) =>
    decide (id ∈ entry.2.map fun comment => comment.val.id)) h.threads
  rw [List.countP_map, List.countP_map] at hcount
  exact hcount

/-- The thread of a placed comment is named. -/
lemma ReadsThreads.mem_namedThreads (h : ReadsThreads comments threadPayloads placed known threads)
    {p : PlacedComment} (hp : p ∈ placed) : p.threadId ∈ namedThreads placed known :=
  List.mem_filter.2 ⟨h.delivered p hp, by simpa using ⟨p, hp, rfl⟩⟩

/-- If identifiers and threads occur once, then every comment is in one thread. -/
lemma ReadsThreads.holders_eq_one (h : ReadsThreads comments threadPayloads placed known threads)
    (hids : (placed.map fun p => p.comment.val.id).Nodup)
    (hthreads : (namedThreads placed known).Nodup)
    {p : PlacedComment} (hp : p ∈ placed) : holders threads p.comment.val.id = 1 := by
  rw [h.holders_eq]
  have hcongr : ∀ threadId ∈ namedThreads placed known,
      decide (p.comment.val.id ∈ commentIds placed threadId) = true ↔
        (threadId == p.threadId) = true := by
    intro threadId _
    rw [decide_eq_true_eq, mem_commentIds, beq_iff_eq]
    constructor
    · rintro ⟨q, hq, rfl, hid⟩
      rw [List.inj_on_of_nodup_map hids hq hp hid]
    · rintro rfl
      exact ⟨p, hp, rfl, rfl⟩
  rw [List.countP_congr hcongr]
  exact List.count_eq_one_of_mem hthreads (h.mem_namedThreads hp)

/-- If identifiers and threads occur once, then no comment is placed twice. -/
lemma ReadsThreads.nodup_placements (h : ReadsThreads comments threadPayloads placed known threads)
    (hids : (placed.map fun p => p.comment.val.id).Nodup)
    (hthreads : (namedThreads placed known).Nodup) :
    (placements threads).Nodup := by
  rw [h.placements_eq, List.nodup_flatMap]
  constructor
  · intro threadId _
    have hsublist : (commentIds placed threadId).Sublist (placed.map fun p =>
        p.comment.val.id) := by
      unfold commentIds commentsByThread
      rw [List.map_map]
      exact List.filter_sublist.map _
    exact (hids.sublist hsublist).map fun _ _ heq => (Prod.mk.inj heq).2
  · refine hthreads.imp fun {a b} hne => ?_
    intro entry hleft hright
    obtain ⟨_, -, rfl⟩ := List.mem_map.1 hleft
    obtain ⟨_, -, heq⟩ := List.mem_map.1 hright
    exact hne (Prod.mk.inj heq).1.symm

/-- If every comment is in one thread, then every thread that a comment names is delivered once. -/
lemma ReadsThreads.nodup_namedThreads (h : ReadsThreads comments threadPayloads placed known
    threads)
    (hone : ∀ p ∈ placed, holders threads p.comment.val.id = 1) :
    (namedThreads placed known).Nodup := by
  rw [List.nodup_iff_count_le_one]
  intro threadId
  by_cases hmem : threadId ∈ namedThreads placed known
  · obtain ⟨p, hp, rfl⟩ := List.mem_map.1 (of_decide_eq_true (List.mem_filter.1 hmem).2)
    calc (namedThreads placed known).count p.threadId
        ≤ (namedThreads placed known).countP fun threadId =>
            p.comment.val.id ∈ commentIds placed threadId := by
          refine List.countP_mono_left fun threadId _ heq => ?_
          rw [beq_iff_eq] at heq
          subst heq
          exact decide_eq_true (mem_commentIds.2 ⟨p, hp, rfl, rfl⟩)
      _ = holders threads p.comment.val.id := (h.holders_eq _).symm
      _ ≤ 1 := (hone p hp).le
  · rw [List.count_eq_zero_of_not_mem hmem]
    exact Nat.zero_le 1

/-- Two comments with one identifier name one thread, if it is in one thread only. -/
lemma ReadsThreads.threadId_eq (h : ReadsThreads comments threadPayloads placed known threads)
    (hone : ∀ p ∈ placed, holders threads p.comment.val.id = 1) {p q : PlacedComment}
    (hp : p ∈ placed)
    (hq : q ∈ placed) (hid : p.comment.val.id = q.comment.val.id) : p.threadId = q.threadId := by
  have hlength := hone p hp
  rw [h.holders_eq, List.countP_eq_length_filter, List.length_eq_one_iff] at hlength
  obtain ⟨threadId, hfilter⟩ := hlength
  have hmem : ∀ r ∈ placed, r.comment.val.id = p.comment.val.id → r.threadId = threadId := by
    intro r hr hrid
    have hr' : r.threadId ∈ (namedThreads placed known).filter fun threadId =>
        p.comment.val.id ∈ commentIds placed threadId :=
      List.mem_filter.2 ⟨h.mem_namedThreads hr,
        decide_eq_true (mem_commentIds.2 ⟨r, hr, rfl, hrid⟩)⟩
    rw [hfilter] at hr'
    exact List.mem_singleton.1 hr'
  exact (hmem p hp rfl).trans (hmem q hq hid.symm).symm

/-- If every comment is in one thread and placed there once, then the identifiers are distinct. -/
lemma ReadsThreads.nodup_ids (h : ReadsThreads comments threadPayloads placed known threads)
    (hone : ∀ p ∈ placed, holders threads p.comment.val.id = 1)
    (hplacements : (placements threads).Nodup) :
    (placed.map fun p => p.comment.val.id).Nodup := by
  rw [List.nodup_iff_count_le_one]
  intro id
  by_cases hmem : id ∈ placed.map fun p => p.comment.val.id
  · obtain ⟨p, hp, rfl⟩ := List.mem_map.1 hmem
    have hcongr : ∀ q ∈ placed, decide (q.comment.val.id = p.comment.val.id) = true ↔
        (decide (q.comment.val.id = p.comment.val.id) && decide (q.threadId = p.threadId)) =
          true := by
      intro q hq
      rw [Bool.and_eq_true, decide_eq_true_eq, decide_eq_true_eq]
      exact ⟨fun hid => ⟨hid, h.threadId_eq hone hq hp hid⟩, And.left⟩
    have hthread : (commentIds placed p.threadId).Nodup := by
      rw [h.placements_eq, List.nodup_flatMap] at hplacements
      exact (hplacements.1 p.threadId (h.mem_namedThreads hp)).of_map _
    calc (placed.map fun p => p.comment.val.id).count p.comment.val.id
        = placed.countP fun q => decide (q.comment.val.id = p.comment.val.id) := by
          rw [List.count, List.countP_map]
          simp only [Function.comp_def, beq_eq_decide]
      _ = (commentIds placed p.threadId).count p.comment.val.id := by
          rw [count_commentIds, List.countP_congr hcongr]
      _ ≤ 1 := List.nodup_iff_count_le_one.1 hthread _
  · rw [List.count_eq_zero_of_not_mem hmem]
    exact Nat.zero_le 1

end Read

/-! ## The memory of the threads -/

/-- Related lists have the same images if related elements do. -/
lemma map_eq_of_forall₂ {α β γ : Type} {R : α → β → Prop} {f : α → γ} {g : β → γ} {as : List α}
    {bs : List β} (h : List.Forall₂ R as bs) (hfg : ∀ a b, R a b → f a = g b) :
      as.map f = bs.map g := by
  induction h with
  | nil => rfl
  | cons hfirst _ ih => exact congrArg₂ List.cons (hfg _ _ hfirst) ih

/-- How many entries of a memory are about a comment of a thread. -/
def memoryCount (memory : PRConversationMemory) (threadId commentId : Text) : ℕ :=
  memory.entries.countP fun entry =>
    entry.val.threadId = some threadId ∧ entry.val.sourceId = some commentId

/-- The entries of the memory, source by source. -/
lemma entries_of_buildConversationMemory {authors : TrustedAuthors} {pr : PullRequestContext}
    {memory : PRConversationMemory} (h : buildConversationMemory authors pr = .ok memory) :
    memory.entries.map Subtype.val = conversationEntries authors pr := by
  unfold buildConversationMemory at h
  obtain ⟨entries, hentries, h⟩ := bind_eq_ok.1 h
  obtain rfl := pure_eq_ok.1 h
  have hmap := map_eq_of_forall₂ (f := id) (g := Subtype.val) (mapM_eq_ok.1 hentries)
    fun _ _ hentry => (construct_eq_ok.1 hentry).symm
  rw [List.map_id] at hmap
  exact hmap.symm

/-- A comment on the pull request has no thread. -/
lemma threadId_issueComment (authors : TrustedAuthors) (comment : PullRequestComment) :
    (commentMemory authors comment issueCommentPlace).threadId = none := by
  simp [commentMemory, issueCommentPlace]

/-- A comment of a thread of GitHub is remembered under its identifier and that of the thread. -/
lemma ids_threadComment (authors : TrustedAuthors) {comment : PullRequestComment}
    (thread : PullRequestReviewThread) (h : comment.sourceProvider = "github") :
    (commentMemory authors comment (commentThread thread).place).threadId = some thread.id ∧
      (commentMemory authors comment (commentThread thread).place).sourceId = some comment.id := by
  have hprovider : memorySourceProvider comment.sourceProvider = some "github" := by
    rw [h]
    decide +kernel
  simp [commentMemory, hprovider, CommentThread.place, commentThread]

/-- The entries about a comment of a thread are as many as its placements. -/
lemma memoryCount_eq {authors : TrustedAuthors} {pr : PullRequestContext}
    {memory : PRConversationMemory}
    (h : buildConversationMemory authors pr = .ok memory)
    (hgithub : ∀ thread ∈ pr.reviewThreads, ∀ comment ∈ thread.val.comments,
      comment.val.sourceProvider = "github") (threadId commentId : Text) :
    memoryCount memory threadId commentId =
      (placements pr.reviewThreads).count (threadId, commentId) := by
  let about : MemoryReference → Bool := fun m =>
    decide (m.threadId = some threadId ∧ m.sourceId = some commentId)
  have hcomments : (pr.comments.map fun comment =>
      commentMemory authors comment.val issueCommentPlace).countP about = 0 := by
    rw [List.countP_eq_zero]
    intro m hm
    obtain ⟨comment, -, rfl⟩ := List.mem_map.1 hm
    simp [about, threadId_issueComment]
  have hreviews : (pr.reviews.map fun review => reviewMemory authors review.val).countP about =
      0 := by
    rw [List.countP_eq_zero]
    intro m hm
    obtain ⟨review, -, rfl⟩ := List.mem_map.1 hm
    simp [about, reviewMemory]
  have hthreads : ∀ threads : List (Checked PullRequestReviewThread),
      (∀ thread ∈ threads, ∀ comment ∈ thread.val.comments, comment.val.sourceProvider = "github") →
      (threads.flatMap fun thread => thread.val.comments.map fun comment =>
        commentMemory authors comment.val (commentThread thread.val).place).countP about =
      (placements threads).count (threadId, commentId) := by
    intro threads hall
    unfold placements
    rw [List.count, List.countP_flatMap, List.countP_flatMap]
    congr 1
    refine List.map_congr_left fun thread hthread => ?_
    rw [Function.comp_apply, Function.comp_apply, List.countP_map, List.countP_map]
    refine List.countP_congr fun comment hcomment => ?_
    obtain ⟨hthreadId, hsourceId⟩ := ids_threadComment authors thread.val
        (hall thread hthread comment hcomment)
    simp [about, hthreadId, hsourceId]
  calc memoryCount memory threadId commentId
      = (memory.entries.map Subtype.val).countP about := by
        rw [List.countP_map]
        rfl
    _ = (placements pr.reviewThreads).count (threadId, commentId) := by
        rw [entries_of_buildConversationMemory h, conversationEntries, List.countP_append,
          List.countP_append, hcomments, hreviews, hthreads _ hgithub, Nat.zero_add, Nat.zero_add]

section Read

variable {comments threadPayloads : List (List (Text × Json))} {placed : List PlacedComment}
  {known : List Text} {threads : List (Checked PullRequestReviewThread)}

/-- The comments of the threads that are returned have been read. -/
lemma ReadsThreads.mem_placed (h : ReadsThreads comments threadPayloads placed known threads)
    {thread : Checked PullRequestReviewThread} (hthread : thread ∈ threads)
    {comment : Checked PullRequestComment} (hcomment : comment ∈ thread.val.comments) :
    ⟨thread.val.id, comment⟩ ∈ placed := by
  have hmem := List.mem_map_of_mem
    (f := fun thread : Checked PullRequestReviewThread => (thread.val.id, thread.val.comments))
      hthread
  rw [h.threads] at hmem
  obtain ⟨threadId, -, heq⟩ := List.mem_map.1 hmem
  obtain ⟨hid, hcomments⟩ := Prod.mk.inj heq
  rw [← hcomments, mem_commentsByThread, hid] at hcomment
  exact hcomment

/-- A placed comment comes from a review thread. -/
lemma ReadsThreads.source (h : ReadsThreads comments threadPayloads placed known threads)
    {p : PlacedComment} (hp : p ∈ placed) :
    p.comment.val.sourceType = "review_thread" ∧ p.comment.val.sourceProvider = "github" := by
  obtain ⟨payload, -, hread⟩ := h.comments.exists_of_mem_right hp
  exact (readReviewComment_eq_ok hread).2.2

/-- A pull request with nothing but threads in its conversation. -/
def pullRequestWithThreads (threads : List (Checked PullRequestReviewThread)) :
    Checked PullRequestContext :=
  ⟨{ oneFilePullRequest.val with comments := [], reviews := [], reviewThreads := threads },
    oneFilePullRequest.property⟩

/-- The memory of the threads that are returned is built. -/
lemma ReadsThreads.exists_memory (h : ReadsThreads comments threadPayloads placed known threads) :
    ∃ memory, buildConversationMemory ⟨[], []⟩ (pullRequestWithThreads threads).val =
      .ok memory := by
  have hvalid : ∀ m ∈ conversationEntries ⟨[], []⟩ (pullRequestWithThreads threads).val,
      ∃ entry, construct m = .ok entry ∧ True := by
    intro m hm
    obtain ⟨thread, hthread, hm⟩ := List.mem_flatMap.1 hm
    obtain ⟨comment, hcomment, rfl⟩ := List.mem_map.1 hm
    have hsource := (h.source (h.mem_placed hthread hcomment)).1
    exact ⟨_, construct_of_postInit (commentMemory_valid comment (commentThread_place_valid thread)
      fun _ => by rw [hsource]; simp), trivial⟩
  obtain ⟨entries, hentries, -⟩ := exists_mapM_eq_ok hvalid
  exact ⟨⟨entries⟩, by rw [buildConversationMemory, hentries]; rfl⟩

end Read

/-! ## Conservation -/

/-- Every comment is in exactly one thread that is returned, the one that it names, and no memory of
the threads has two entries for a comment of a thread. -/
structure ConservesComments (comments : List (List (Text × Json)))
    (threads : List (Checked PullRequestReviewThread)) : Prop where
  placed : ∀ payload ∈ comments, ∃ p, readReviewComment payload = .ok p ∧
    (∃ thread ∈ threads, thread.val.id = p.threadId ∧ p.comment ∈ thread.val.comments) ∧
    holders threads p.comment.val.id = 1
  remembered :
    ∀ (authors : TrustedAuthors) (pr : Checked PullRequestContext) (memory : PRConversationMemory),
    pr.val.reviewThreads = threads → buildConversationMemory authors pr.val = .ok memory →
    ∀ threadId commentId, memoryCount memory threadId commentId ≤ 1

/-- The identifiers of the comments are distinct, and every thread that a comment names is delivered
once. -/
structure DeliversOnce (comments threadPayloads : List (List (Text × Json))) : Prop where
  distinctIds : (comments.map fun payload => Json.lookup payload "id").Nodup
  threadsOnce : ((threadPayloads.map fun payload => Json.lookup payload "id").filter fun id =>
    id ∈ comments.map fun payload => Json.lookup payload "thread_id").Nodup

section Read

variable {comments threadPayloads : List (List (Text × Json))} {placed : List PlacedComment}
  {known : List Text} {threads : List (Checked PullRequestReviewThread)}

/-- Different texts are different strings. -/
lemma str_injective : Function.Injective fun t : Text => some (Json.str t) :=
  fun _ _ h => Json.str.inj (Option.some.inj h)

/-- The condition on the payloads is one on what is read. -/
lemma ReadsThreads.deliversOnce_iff (h : ReadsThreads comments threadPayloads placed known
    threads) :
    DeliversOnce comments threadPayloads ↔
      (placed.map fun p => p.comment.val.id).Nodup ∧ (namedThreads placed known).Nodup := by
  have hids : (comments.map fun payload => Json.lookup payload "id") =
      (placed.map fun p => p.comment.val.id).map fun t => some (Json.str t) := by
    rw [List.map_map]
    exact map_eq_of_forall₂ h.comments fun payload p hread => (readReviewComment_eq_ok hread).2.1
  have hnames : (comments.map fun payload => Json.lookup payload "thread_id") =
      (placed.map PlacedComment.threadId).map fun t => some (Json.str t) := by
    rw [List.map_map]
    exact map_eq_of_forall₂ h.comments fun payload p hread => (readReviewComment_eq_ok hread).1
  have hknown : (threadPayloads.map fun payload => Json.lookup payload "id") =
      known.map fun t => some (Json.str t) :=
    map_eq_of_forall₂ h.ids fun payload id hread => (requiredStr_eq_ok.1 hread).1
  have hfilter : ((threadPayloads.map fun payload => Json.lookup payload "id").filter fun id =>
      id ∈ comments.map fun payload => Json.lookup payload "thread_id") =
      (namedThreads placed known).map fun t => some (Json.str t) := by
    rw [hknown, hnames, List.filter_map, namedThreads]
    congr 1
    refine List.filter_congr fun threadId _ => ?_
    rw [Function.comp_apply, decide_eq_decide]
    exact List.mem_map_of_injective str_injective
  constructor
  · rintro ⟨hcomments, hthreads⟩
    rw [hids] at hcomments
    rw [hfilter] at hthreads
    exact ⟨hcomments.of_map _, hthreads.of_map _⟩
  · rintro ⟨hcomments, hthreads⟩
    refine ⟨?_, ?_⟩
    · rw [hids]
      exact hcomments.map str_injective
    · rw [hfilter]
      exact hthreads.map str_injective

/-- Comments that are delivered once are conserved. -/
lemma ReadsThreads.conservesComments (h : ReadsThreads comments threadPayloads placed known threads)
    (honce : DeliversOnce comments threadPayloads) : ConservesComments comments threads := by
  obtain ⟨hids, hthreads⟩ := h.deliversOnce_iff.1 honce
  constructor
  · intro payload hpayload
    obtain ⟨p, hp, hread⟩ := h.comments.flip.exists_of_mem_right hpayload
    refine ⟨p, hread, ?_, h.holders_eq_one hids hthreads hp⟩
    have hmem := List.mem_map_of_mem (f := fun threadId =>
        (threadId, commentsByThread placed threadId))
      (h.mem_namedThreads hp)
    rw [← h.threads] at hmem
    obtain ⟨thread, hthread, heq⟩ := List.mem_map.1 hmem
    obtain ⟨hid, hcomments⟩ := Prod.mk.inj heq
    exact ⟨thread, hthread, hid, by rw [hcomments]; exact mem_commentsByThread.2 hp⟩
  · rintro authors pr memory rfl hbuild threadId commentId
    rw [memoryCount_eq hbuild fun thread hthread comment hcomment =>
      (h.source (h.mem_placed hthread hcomment)).2]
    exact List.nodup_iff_count_le_one.1 (h.nodup_placements hids hthreads) _

/-- Comments that are conserved are delivered once. -/
lemma ReadsThreads.deliversOnce (h : ReadsThreads comments threadPayloads placed known threads)
    (hconserves : ConservesComments comments threads) : DeliversOnce comments threadPayloads := by
  have hone : ∀ p ∈ placed, holders threads p.comment.val.id = 1 := by
    intro p hp
    obtain ⟨payload, hpayload, hread⟩ := h.comments.exists_of_mem_right hp
    obtain ⟨q, hq, -, hholders⟩ := hconserves.placed payload hpayload
    obtain rfl := Except.ok.inj (hread.symm.trans hq)
    exact hholders
  obtain ⟨memory, hbuild⟩ := h.exists_memory
  have hplacements : (placements threads).Nodup := by
    rw [List.nodup_iff_count_le_one]
    rintro ⟨threadId, commentId⟩
    have hcount := hconserves.remembered _ _ memory rfl hbuild threadId commentId
    rwa [memoryCount_eq hbuild fun thread hthread comment hcomment =>
      (h.source (h.mem_placed hthread hcomment)).2] at hcount
  exact h.deliversOnce_iff.2 ⟨h.nodup_ids hone hplacements, h.nodup_namedThreads hone⟩

end Read

/-- The payloads are well formed, and every comment names a thread that is delivered; what a thread
without comments says about its state is not read. -/
structure IsPlaceable (comments threadPayloads : List (List (Text × Json))) : Prop where
  readComments : ∀ payload ∈ comments, ∃ p, readReviewComment payload = .ok p
  readThreads : ∀ payload ∈ threadPayloads, ∃ id, readThreadId payload = .ok id
  delivered : ∀ payload ∈ comments, ∃ thread ∈ threadPayloads,
    Json.lookup payload "thread_id" = Json.lookup thread "id"
  states : ∀ thread ∈ threadPayloads,
    (∃ payload ∈ comments, Json.lookup payload "thread_id" = Json.lookup thread "id") →
    ∃ path status, requiredStr thread "path" "review thread" = .ok path ∧
      requiredStr thread "resolved_status" "review thread" = .ok status ∧
      status ∈ (["resolved", "unresolved", "unknown"] : List Text)

/-- The threads of the placed comments are those of the payloads. -/
lemma mem_threadIds_iff {comments : List (List (Text × Json))} {placed : List PlacedComment}
    (hplaced : List.Forall₂ (fun payload p => readReviewComment payload = .ok p) comments placed)
    {thread : List (Text × Json)} {threadId : Text} (hid : readThreadId thread = .ok threadId) :
    threadId ∈ placed.map PlacedComment.threadId ↔
      ∃ payload ∈ comments, Json.lookup payload "thread_id" = Json.lookup thread "id" := by
  have hlookup := (requiredStr_eq_ok.1 hid).1
  rw [hlookup, List.mem_map]
  constructor
  · rintro ⟨p, hp, rfl⟩
    obtain ⟨payload, hpayload, hread⟩ := hplaced.exists_of_mem_right hp
    exact ⟨payload, hpayload, (readReviewComment_eq_ok hread).1⟩
  · rintro ⟨payload, hpayload, hthread⟩
    obtain ⟨p, hp, hread⟩ := hplaced.flip.exists_of_mem_right hpayload
    exact ⟨p, hp, str_injective ((readReviewComment_eq_ok hread).1.symm.trans hthread)⟩

/-- A payload of a thread is read if its identifier is, and its state if a comment names it. -/
lemma readReviewThread_ok_iff {placed : List PlacedComment} {thread : List (Text × Json)}
    {threadId : Text}
    (hid : readThreadId thread = .ok threadId) :
    (∃ read, readReviewThread placed thread = .ok read) ↔
      (threadId ∈ placed.map PlacedComment.threadId →
        ∃ path status, requiredStr thread "path" "review thread" = .ok path ∧
          requiredStr thread "resolved_status" "review thread" = .ok status ∧
          status ∈ (["resolved", "unresolved", "unknown"] : List Text)) := by
  unfold readReviewThread
  rw [hid, ok_bind]
  by_cases hnil : commentsByThread placed threadId = []
  · simp only [if_pos hnil]
    exact iff_of_true ⟨none, rfl⟩ fun hmem => absurd hmem (commentsByThread_eq_nil.1 hnil)
  · simp only [if_neg hnil]
    have hmem : threadId ∈ placed.map PlacedComment.threadId :=
      not_not.1 fun hnot => hnil (commentsByThread_eq_nil.2 hnot)
    constructor
    · rintro ⟨read, hread⟩ -
      obtain ⟨path, hpath, hread⟩ := bind_eq_ok.1 hread
      obtain ⟨status, hstatus, hread⟩ := bind_eq_ok.1 hread
      obtain ⟨t, ht, -⟩ := bind_eq_ok.1 hread
      have hval := construct_eq_ok.1 ht
      have hchecks := t.property
      simp only [hval, Record.postInit, check_bind_eq_ok, require_eq_ok] at hchecks
      exact ⟨path, status, hpath, hstatus, hchecks.2.2.2.1⟩
    · intro hstate
      obtain ⟨path, status, hpath, hstatus, hallowed⟩ := hstate hmem
      have hpost : Record.postInit ({
          id := threadId, path, resolvedStatus := status
          comments := commentsByThread placed threadId } : PullRequestReviewThread) = .ok () := by
        simp only [Record.postInit, check_bind_eq_ok, requireNonEmpty_eq_ok, require_eq_ok]
        exact ⟨(requiredStr_eq_ok.1 hid).2, (requiredStr_eq_ok.1 hpath).2,
          (requiredStr_eq_ok.1 hstatus).2,
          hallowed, hnil⟩
      rw [hpath, ok_bind, hstatus, ok_bind, construct_of_postInit hpost, ok_bind]
      exact ⟨_, rfl⟩

section Calls

variable (prRef : GitHubPRRef) (reviewTarget : ReviewTarget)
  (comments threadPayloads : List (List (Text × Json)))

/-- Threads are returned exactly for payloads that can be placed. -/
lemma exists_returned_iff :
    (∃ threads, reviewThreadsFromPayloads prRef reviewTarget comments threadPayloads = .ok
      (.inl threads)) ↔
      IsPlaceable comments threadPayloads := by
  constructor
  · rintro ⟨threads, h⟩
    obtain ⟨placed, known, hreads⟩ := ReadsThreads.of_returned h
    have hid : ∀ thread ∈ threadPayloads, ∃ id, id ∈ known ∧ readThreadId thread = .ok id :=
      fun thread hthread => hreads.ids.flip.exists_of_mem_right hthread
    unfold reviewThreadsFromPayloads at h
    obtain ⟨placed', hplaced', h⟩ := bind_eq_ok.1 h
    obtain rfl := Except.ok.inj ((mapM_eq_ok.2 hreads.comments).symm.trans hplaced')
    obtain ⟨known', hknown', h⟩ := bind_eq_ok.1 h
    obtain rfl := Except.ok.inj ((mapM_eq_ok.2 hreads.ids).symm.trans hknown')
    simp only [orphanIds_eq_nil.2 hreads.delivered, ne_eq, not_true_eq_false, if_false] at h
    obtain ⟨read, hread, -⟩ := bind_eq_ok.1 h
    constructor
    · intro payload hpayload
      obtain ⟨p, -, hp⟩ := hreads.comments.flip.exists_of_mem_right hpayload
      exact ⟨p, hp⟩
    · intro thread hthread
      obtain ⟨id, -, hid⟩ := hid thread hthread
      exact ⟨id, hid⟩
    · intro payload hpayload
      obtain ⟨p, hp, hpread⟩ := hreads.comments.flip.exists_of_mem_right hpayload
      obtain ⟨thread, hthread, hthreadId⟩ :=
        hreads.ids.exists_of_mem_right (hreads.delivered p hp)
      exact ⟨thread, hthread, (readReviewComment_eq_ok hpread).1.trans
        (requiredStr_eq_ok.1 hthreadId).1.symm⟩
    · intro thread hthread hnamed
      obtain ⟨id, -, hid⟩ := hid thread hthread
      obtain ⟨r, -, hr⟩ := (mapM_eq_ok.1 hread).flip.exists_of_mem_right hthread
      exact (readReviewThread_ok_iff hid).1 ⟨r, hr⟩
        ((mem_threadIds_iff hreads.comments hid).2 hnamed)
  · rintro ⟨hcomments, hthreads, hdelivered, hstates⟩
    obtain ⟨placed, hplaced, -⟩ := exists_mapM_eq_ok (R := fun _ _ => True) fun payload
        hpayload => by
      obtain ⟨p, hp⟩ := hcomments payload hpayload
      exact ⟨p, hp, trivial⟩
    obtain ⟨known, hknown, -⟩ := exists_mapM_eq_ok (R := fun _ _ => True) fun thread hthread => by
      obtain ⟨id, hid⟩ := hthreads thread hthread
      exact ⟨id, hid, trivial⟩
    have hplaced' := mapM_eq_ok.1 hplaced
    have hknown' := mapM_eq_ok.1 hknown
    have horphans : orphanIds placed known = [] := by
      rw [orphanIds_eq_nil]
      intro p hp
      obtain ⟨payload, hpayload, hread⟩ := hplaced'.exists_of_mem_right hp
      obtain ⟨thread, hthread, hname⟩ := hdelivered payload hpayload
      obtain ⟨id, hidmem, hid⟩ := hknown'.flip.exists_of_mem_right hthread
      have heq : p.threadId = id := str_injective
        ((readReviewComment_eq_ok hread).1.symm.trans (hname.trans (requiredStr_eq_ok.1 hid).1))
      exact heq ▸ hidmem
    obtain ⟨read, hread, -⟩ := @exists_mapM_eq_ok _ _ (fun _ _ => True) (readReviewThread placed)
      threadPayloads fun thread hthread => by
        obtain ⟨id, -, hid⟩ := hknown'.flip.exists_of_mem_right hthread
        obtain ⟨r, hr⟩ := (readReviewThread_ok_iff hid).2 fun hmem =>
          hstates thread hthread ((mem_threadIds_iff hplaced' hid).1 hmem)
        exact ⟨r, hr, trivial⟩
    refine ⟨read.reduceOption, ?_⟩
    unfold reviewThreadsFromPayloads
    rw [hplaced, ok_bind, hknown, ok_bind]
    simp only [horphans, ne_eq, not_true_eq_false, if_false]
    rw [hread]
    rfl

/-- Comments that are conserved and can be placed are delivered once. -/
lemma deliversOnce_of_conserves
    (h : ∀ threads, reviewThreadsFromPayloads prRef reviewTarget comments threadPayloads = .ok
      (.inl threads) →
      ConservesComments comments threads)
    (hplaceable : IsPlaceable comments threadPayloads) : DeliversOnce comments threadPayloads := by
  obtain ⟨threads, hthreads⟩ := (exists_returned_iff prRef reviewTarget comments threadPayloads).2
      hplaceable
  obtain ⟨placed, known, hreads⟩ := ReadsThreads.of_returned hthreads
  exact hreads.deliversOnce (h threads hthreads)

/-- The threads that are returned conserve the comments exactly if the payloads cannot be placed, or
deliver every comment and every thread with comments once. -/
theorem reviewThreads_conserve_iff :
    (∀ threads, reviewThreadsFromPayloads prRef reviewTarget comments threadPayloads = .ok
      (.inl threads) →
      ConservesComments comments threads) ↔
    (IsPlaceable comments threadPayloads → DeliversOnce comments threadPayloads) := by
  constructor
  · intro h
    exact deliversOnce_of_conserves prRef reviewTarget comments threadPayloads h
  · intro honce threads hthreads
    have hplaceable := (exists_returned_iff prRef reviewTarget comments threadPayloads).1 ⟨threads,
        hthreads⟩
    obtain ⟨placed, known, hreads⟩ := ReadsThreads.of_returned hthreads
    exact hreads.conservesComments (honce hplaceable)

end Calls

/-- A comment of a thread. -/
def sampleReviewComment : List (Text × Json) :=
  [("id", .str "c"), ("thread_id", .str "t"), ("author", .str "a"),
    ("author_association", .str "NONE"),
    ("author_type", .str "User"), ("body", .str "b"), ("created_at", .str "d")]

/-- Its thread. -/
def sampleReviewThread : List (Text × Json) :=
  [("id", .str "t"), ("path", .str "p"), ("resolved_status", .str "unresolved")]

/-- A result that is no error has a value. -/
lemma exists_eq_ok {α : Type} {x : Result α} (h : x.isOk = true) : ∃ a, x = .ok a := by
  cases x with
  | ok a => exact ⟨a, rfl⟩
  | error e => contradiction

/-- The sample can be placed. -/
lemma isPlaceable_sample :
    IsPlaceable [sampleReviewComment] [sampleReviewThread, sampleReviewThread] := by
  have hlookup : Json.lookup sampleReviewComment "thread_id" = Json.lookup sampleReviewThread
      "id" := by
    decide +kernel
  have hthreads : ∀ thread ∈ [sampleReviewThread, sampleReviewThread],
      thread = sampleReviewThread := by
    simp
  constructor
  · simp only [List.forall_mem_singleton]
    exact exists_eq_ok (by decide +kernel)
  · intro thread hthread
    rw [hthreads thread hthread]
    exact exists_eq_ok (by decide +kernel)
  · simp only [List.forall_mem_singleton]
    exact ⟨sampleReviewThread, List.mem_cons_self, hlookup⟩
  · intro thread hthread _
    rw [hthreads thread hthread]
    exact ⟨"p", "unresolved", by decide +kernel, by decide +kernel, by decide +kernel⟩

/-- A thread that two pages deliver is returned twice, each time with its comment. -/
theorem reviewThreads_conserve_not :
    ¬ ∀ threads, reviewThreadsFromPayloads ⟨"o", "r", 1⟩ oneFilePullRequest.val.reviewTarget.val
        [sampleReviewComment] [sampleReviewThread, sampleReviewThread] = .ok (.inl threads) →
      ConservesComments [sampleReviewComment] threads := by
  intro h
  have honce := deliversOnce_of_conserves _ _ _ _ h isPlaceable_sample
  exact absurd honce.threadsOnce (by decide +kernel)

end ReviewGraph
