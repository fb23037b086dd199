/-
What is measured of a sequence of calls. Every operation that runs leaves its
time once, however it ends, and every question to the storage manager that is
answered leaves the status of the answer, whatever is made of the answer then.
So the marks of a session count its operations and the answers that were taken
from the network, and what the calls come to is what they would come to if
nothing was measured.
-/
import MediaVault.Proofs.Vault.Calls

namespace MediaVault

open Metrics

/-! ## Answers that were taken -/

namespace Network

/-- The status of the answer to a question that was taken from the network between the one and the
other. An answer can also be that there is no connection, that it ends or that nothing comes; those
have no status. -/
def statusTaken (before after : Network) : Option Nat :=
  if after.gets.length < before.gets.length then
    (before.gets.head?.bind (·.reply?)).map (·.status)
  else none

theorem statusTaken_self (n : Network) : n.statusTaken n = none := if_neg (Nat.lt_irrefl _)

/-- The next answer is taken from the network, with its status if it is a reply. -/
theorem statusTaken_nextAnswer (n : Network) :
    n.statusTaken (n.nextAnswer .get).2 = (n.nextAnswer .get).1.reply?.map (·.status) := by
  obtain ⟨reach, gets, posts⟩ := n
  cases reach with
  | available =>
    rcases gets with _ | ⟨answer, rest⟩
    · rfl
    · simp [statusTaken, nextAnswer]
  | barred | silent => exact statusTaken_self _

/-- What comes of a server's reaction has a status if the reaction is a reply. -/
theorem toOption_received (u : Url) (reaction : Reaction) (early : Option Early) :
    (received u reaction).toOption = (Answer.met reaction early).reply? := by
  cases reaction <;> rfl

/-- A question takes an answer with a status from the network if it is answered, and only then. -/
theorem statusTaken_exchange (n : Network) (u : Url) (headers : Headers) :
    n.statusTaken (n.exchange .get u headers .nothing).2.2 =
      (n.exchange .get u headers .nothing).1.toOption.map (·.status) := by
  have hcases := exchanged n .get u headers .nothing
  rcases hx : n.exchange .get u headers .nothing with ⟨result, attempt, n'⟩
  rw [hx] at hcases
  cases hcases with
  | refused => exact statusTaken_self _
  | unconnected _ _ hanswer | unmet _ hanswer =>
    rw [Request.method_build] at hanswer ⊢
    rw [statusTaken_nextAnswer, hanswer]
    rfl
  | broken _ _ _ _ _ hfault => cases hfault
  | acted reaction early _ hanswer =>
    rw [Request.method_build] at hanswer ⊢
    rw [statusTaken_nextAnswer, hanswer, toOption_received _ _ early]

end Network

namespace Client

open MediaVault.Action Network Manager

variable {c : Client} {s : Session}

theorem statusTaken_questioned (c : Client) (path : String) (pairs : List (String × String))
    (s : Session) :
    s.network.statusTaken (c.questioned path pairs s).2.2 =
      (c.questioned path pairs s).1.toOption.map (·.status) := by
  unfold questioned
  rcases managerUrl (c.baseUrl ++ path) with f | u
  · exact s.network.statusTaken_self
  · exact s.network.statusTaken_exchange _ _

/-! ## Single operations -/

/-- The operation that a call runs. A copy to another vault is refused before there is one, and a
listing of all pages has none beside the listings of its pages. -/
def Call.operation? : Call → Option Operation
  | .copy _ _ _ grant => if grant.vault = vaultNumber then some .copy else none
  | .list .. => some .list
  | .usage _ => some .usage
  | .listAll .. | .script _ => none

/-- Whether a call runs one operation at most. -/
def Call.isSingle : Call → Bool
  | .listAll .. => false
  | _ => true

/-- The calls of single operations that a call comes down to: the pages of a listing are asked for
one after another. -/
def singles (c : Client) (s : Session) : Call → List Call
  | .listAll lead limit =>
    ((ofClient c).listing lead limit (s.network.gets.length + 1) s).2.2.map fun q =>
      .list q.lead q.cursor q.limit
  | call => [call]

/-- The calls of single operations that a sequence of calls comes down to. -/
def allSingles (c : Client) : List Call → Session → List Call
  | [], _ => []
  | call :: calls, s => c.singles s call ++ c.allSingles calls (c.perform s call).2

theorem isSingle_of_mem_singles {call single : Call} (h : single ∈ c.singles s call) :
    single.isSingle = true := by
  cases call with
  | listAll =>
    obtain ⟨_, -, rfl⟩ := List.mem_map.mp h
    rfl
  | copy | list | usage | script => cases List.mem_singleton.mp h; rfl

theorem isSingle_of_mem_allSingles {calls : List Call} {single : Call}
    (h : single ∈ c.allSingles calls s) : single.isSingle = true := by
  induction calls generalizing s with
  | nil => cases h
  | cons call calls ih =>
    rcases List.mem_append.mp h with h | h
    · exact isSingle_of_mem_singles h
    · exact ih h

/-- The session after a sequence of calls is what one call after another makes of it. -/
theorem snd_performAll (c : Client) (calls : List Call) (s : Session) :
    (c.performAll calls s).2 = calls.foldl (fun s call => (c.perform s call).2) s := by
  induction calls generalizing s with
  | nil => rfl
  | cons call calls ih => exact ih _

end Client

/-- A walk leaves a manager as its questions do, asked one after another. -/
theorem Manager.snd_walkFrom_recorded {σ : Type} (m : Manager σ) (lead : String) (limit n : Nat)
    (cursor : Option String) (s : σ) (asked : List Question) :
    ∃ more, (m.recorded.walkFrom lead limit n cursor (s, asked)).2 =
      (more.foldl (fun s q => (m q s).2) s, asked ++ more) := by
  induction n generalizing cursor s asked with
  | zero => exact ⟨[], by rw [List.append_nil]; rfl⟩
  | succ n ih =>
    rw [walkFrom_succ, recorded]
    rcases hanswer : m ⟨lead, cursor, limit⟩ s with ⟨f | page, s'⟩
    · exact ⟨[⟨lead, cursor, limit⟩], by simp [hanswer]⟩
    dsimp only
    rcases page.cursor with _ | next
    · exact ⟨[⟨lead, cursor, limit⟩], by simp [hanswer]⟩
    by_cases hsame : cursor = some next
    · simp only [hsame, if_true] at hanswer ⊢
      exact ⟨[⟨lead, some next, limit⟩], by simp [hanswer]⟩
    simp only [hsame, if_false]
    obtain ⟨more, hmore⟩ := ih (some next) s' (asked ++ [⟨lead, cursor, limit⟩])
    refine ⟨⟨lead, cursor, limit⟩ :: more, ?_⟩
    rw [List.append_assoc, List.singleton_append] at hmore
    rw [List.foldl_cons, hanswer, ← hmore]
    generalize m.recorded.walkFrom lead limit n (some next) _ = rest
    rcases rest with ⟨f | entries, _⟩ <;> rfl

namespace Client

open MediaVault.Action Network Manager

variable {c : Client} {s : Session} {call : Call} {calls : List Call}

/-- A call leaves the session as the single operations do that it comes down to. -/
theorem snd_perform (c : Client) (s : Session) (call : Call) :
    (c.perform s call).2 = (c.performAll (c.singles s call) s).2 := by
  cases call with
  | listAll lead limit =>
    obtain ⟨more, hmore⟩ :=
      (ofClient c).snd_walkFrom_recorded lead limit (s.network.gets.length + 1) none s []
    have hasked : ((ofClient c).listing lead limit (s.network.gets.length + 1) s).2.2 = more := by
      rw [listing, hmore, List.nil_append]
    have hwalk : ((ofClient c).walkFrom lead limit (s.network.gets.length + 1) none s).2 =
        more.foldl (fun s q => (ofClient c q s).2) s := by
      rw [walkFrom_eq_recorded _ _ _ _ _ _ [], hmore]
    have hrun : (c.perform s (.listAll lead limit)).2 =
        ((ofClient c).walkFrom lead limit (s.network.gets.length + 1) none s).2 := by
      rw [perform, run_listAll]
      rcases (ofClient c).walkFrom lead limit (s.network.gets.length + 1) none s with
        ⟨f | entries | entries, s'⟩ <;> rfl
    rw [hrun, hwalk, singles, hasked, snd_performAll, List.foldl_map]
    simp only [perform_list, ofClient]
  | copy | list | usage | script =>
    simp only [singles, snd_performAll, List.foldl_cons, List.foldl_nil]

theorem snd_performAll_allSingles (c : Client) (calls : List Call) (s : Session) :
    (c.performAll (c.allSingles calls s) s).2 = (c.performAll calls s).2 := by
  induction calls generalizing s with
  | nil => rfl
  | cons call calls ih =>
    calc (c.performAll (c.allSingles (call :: calls) s) s).2
        = (c.performAll (c.allSingles calls (c.perform s call).2)
            (c.performAll (c.singles s call) s).2).2 := by
          simp only [allSingles, snd_performAll, List.foldl_append]
      _ = (c.performAll calls (c.perform s call).2).2 := by rw [← snd_perform, ih]

/-! ## Marks -/

/-- A call between the session that it found and the one that it left. -/
structure Turn where
  call : Call
  before : Session
  after : Session

/-- The status of the answer that a turn took. -/
def Turn.status? (t : Turn) : Option Nat := t.before.network.statusTaken t.after.network

/-- What is measured of a turn: the time of its operation and, of a question to the storage manager,
the status that it was answered with. -/
def Turn.marks (t : Turn) : List Mark :=
  match t.call.operation? with
  | none => []
  | some .copy => [.duration .copy]
  | some op => (t.status?.map (.status op)).toList ++ [.duration op]

/-- One call after another, each between its sessions. -/
def turns (c : Client) : List Call → Session → List Turn
  | [], _ => []
  | call :: calls, s => ⟨call, s, (c.perform s call).2⟩ :: c.turns calls (c.perform s call).2

/-- A question to the storage manager leaves its time, and its status if it was answered. -/
theorem marks_afterQuestion {α : Type} (op : Operation) (take : Reply → Except Failure α)
    (lines : Reply → List LogLine) (path : String) (pairs : List (String × String)) :
    (afterQuestion op take lines (c.questioned path pairs s) s).2.marks =
      s.marks ++
        (((s.network.statusTaken
            (afterQuestion op take lines (c.questioned path pairs s) s).2.network).map
          (.status op)).toList ++ [.duration op]) := by
  dsimp only [afterQuestion]
  rw [statusTaken_questioned]
  rcases (c.questioned path pairs s).1 with f | reply <;> rfl

/-- **The marks of one call**: those of its turn are added. -/
theorem marks_perform (hsingle : call.isSingle = true) :
    (c.perform s call).2.marks =
      s.marks ++ (⟨call, s, (c.perform s call).2⟩ : Turn).marks := by
  cases call with
  | copy source expected key grant =>
    rw [perform_copy]
    by_cases hvault : grant.vault = vaultNumber
    · obtain ⟨action, hcopy⟩ := exists_copy_eq_ok c source expected key hvault
      simp only [callCopy_of_eq_ok hcopy, Turn.marks, Call.operation?, if_pos hvault]
      exact ((runFrom_copy hcopy s).2.sends hvault).1
    · simp only [callCopy_of_ne hvault, Turn.marks, Call.operation?, if_neg hvault, List.append_nil]
  | list lead cursor limit =>
    simp only [perform_list, runFrom_list, Turn.marks, Turn.status?, Call.operation?]
    exact marks_afterQuestion _ _ _ _ _
  | usage lead =>
    simp only [perform_usage, runFrom_usage, Turn.marks, Turn.status?, Call.operation?]
    exact marks_afterQuestion _ _ _ _ _
  | listAll => cases hsingle
  | script => exact (List.append_nil _).symm

/-- **The marks of a sequence** of single operations: those of its turns are added, in order. -/
theorem marks_performAll (hsingle : ∀ call ∈ calls, call.isSingle = true) :
    (c.performAll calls s).2.marks = s.marks ++ (c.turns calls s).flatMap (·.marks) := by
  induction calls generalizing s with
  | nil => exact (List.append_nil _).symm
  | cons call calls ih =>
    rw [List.forall_mem_cons] at hsingle
    change (c.performAll calls (c.perform s call).2).2.marks = _
    rw [ih hsingle.2, marks_perform hsingle.1, turns, List.flatMap_cons, List.append_assoc]

theorem map_call_turns : (c.turns calls s).map (·.call) = calls := by
  induction calls generalizing s with
  | nil => rfl
  | cons call calls ih => rw [turns, List.map_cons, ih]

/-! ## Counts -/

theorem samples_marks (t : Turn) (op : Operation) :
    samples t.marks op = if t.call.operation? = some op then 1 else 0 := by
  unfold Turn.marks samples
  rcases t.call.operation? with _ | op'
  · simp
  · cases op' <;> cases t.status? <;> cases op <;> simp

theorem replies_marks (t : Turn) (op : Operation) (status : Nat) :
    replies t.marks op status =
      if op ≠ .copy ∧ t.call.operation? = some op ∧ t.status? = some status then 1 else 0 := by
  unfold Turn.marks replies
  rcases t.call.operation? with _ | op'
  · simp
  · cases op' <;> cases t.status? <;> cases op <;> simp [List.count_cons]

/-- The times of an operation are as many as the calls that run it. -/
theorem samples_flatMap (turns : List Turn) (op : Operation) :
    samples (turns.flatMap (·.marks)) op =
      (turns.map (·.call)).countP fun call => call.operation? = some op := by
  induction turns with
  | nil => rfl
  | cons t turns ih =>
    have hmarks := samples_marks t op
    rw [samples] at hmarks ih ⊢
    rw [List.flatMap_cons, List.count_append, hmarks, ih, List.map_cons, List.countP_cons,
      Nat.add_comm]
    simp only [decide_eq_true_eq]

/-- A status is counted as often as an operation that asks was answered with it. -/
theorem replies_flatMap (turns : List Turn) (op : Operation) (status : Nat) :
    replies (turns.flatMap (·.marks)) op status =
      turns.countP fun t =>
        op ≠ .copy ∧ t.call.operation? = some op ∧ t.status? = some status := by
  induction turns with
  | nil => rfl
  | cons t turns ih =>
    have hmarks := replies_marks t op status
    rw [replies] at hmarks ih ⊢
    rw [List.flatMap_cons, List.count_append, hmarks, ih, List.countP_cons, Nat.add_comm]
    simp only [decide_eq_true_eq]

/-! ## What calls come to -/

/-- What a question to the storage manager is answered with over a network. -/
def answered (c : Client) (path : String) (pairs : List (String × String)) (n : Network) :
    Except Failure Reply × Network :=
  let x := c.questioned path pairs { network := n }
  (x.1.mapError .http, x.2.2)

/-- A client's storage manager over a network, of which nothing is recorded. -/
def pages (c : Client) : Manager Network := fun q n =>
  Prod.map (· >>= pageOf q.lead) id
    (c.answered ("/" ++ listingPath ++ "/") (listPairs q.lead q.cursor q.limit) n)

/-- What a call comes to over a network if nothing is recorded of it. -/
def unmeasured (c : Client) (n : Network) : Call → Outcome
  | .copy source expected key grant =>
    .copied (if grant.vault ≠ vaultNumber then .error (.otherVault vaultNumber grant.vault)
      else .ok (copied { network := n } source expected key grant))
  | .list lead cursor limit => .listed (c.pages ⟨lead, cursor, limit⟩ n).1
  | .usage lead =>
    .used ((c.answered "/usage" [("prefix", lead)] n).1 >>= answerOf .usage Usage.ofJson?)
  | .listAll lead limit =>
    .collected (match (c.pages.walkFrom lead limit (n.gets.length + 1) none n).1 with
      | .ok (some entries) => .ok entries
      | .ok none => .error (.vault .task none)
      | .error f => .error f)
  | .script _ => .scripted

theorem questioned_network (c : Client) (path : String) (pairs : List (String × String))
    (s : Session) : c.questioned path pairs { network := s.network } = c.questioned path pairs s :=
  rfl

theorem pages_eq_ofClient (c : Client) (q : Question) (s : Session) :
    c.pages q s.network = Prod.map id (·.network) (ofClient c q s) := by
  simp only [ofClient, runFrom_list, afterQuestion, pages, answered, questioned_network, Prod.map, id]

/-- **What a call comes to** is what it would come to if nothing was recorded. -/
theorem fst_perform (c : Client) (s : Session) (call : Call) :
    (c.perform s call).1 = c.unmeasured s.network call := by
  cases call with
  | copy source expected key grant =>
    rw [perform_copy]
    by_cases hvault : grant.vault = vaultNumber
    · obtain ⟨action, hcopy⟩ := exists_copy_eq_ok c source expected key hvault
      simp only [callCopy_of_eq_ok hcopy, unmeasured, hvault, ne_eq, not_true_eq_false, if_false,
        (runFrom_copy hcopy s).2.fst_eq]
      rfl
    · simp only [callCopy_of_ne hvault, unmeasured, hvault, ne_eq, not_false_eq_true, if_true]
  | list lead cursor limit =>
    simp only [perform_list, unmeasured, pages_eq_ofClient, ofClient, Prod.map_fst, id]
  | usage lead =>
    simp only [perform_usage, runFrom_usage, unmeasured, answered, questioned_network, afterQuestion]
  | listAll lead limit =>
    have hwalk : c.pages.walkFrom lead limit (s.network.gets.length + 1) none s.network =
        Prod.map id (·.network)
          ((ofClient c).walkFrom lead limit (s.network.gets.length + 1) none s) :=
      walkFrom_map (·.network) c.pages_eq_ofClient lead limit _ none s
    rw [perform, run_listAll, unmeasured, hwalk]
    rcases (ofClient c).walkFrom lead limit (s.network.gets.length + 1) none s with
      ⟨f | entries | entries, s'⟩ <;> rfl
  | script => rfl

/-- **Everything that is measured is counted once.** A sequence of calls leaves its session as the
single operations do that it comes down to, a listing of all pages as the listings of its pages. The
times that it adds are as many as the operations that ran, however they ended; a copy has one unless
it was refused at once. A status is counted as often as a question to the storage manager was
answered with it, whatever was made of the answer, and never for a copy. What a call comes to is what
it would come to if nothing was recorded. -/
theorem marks_accounted (c : Client) (calls : List Call) (s : Session) :
    let singles := c.allSingles calls s
    let marks := (c.performAll calls s).2.marks
    ((∀ call ∈ singles, call.isSingle = true) ∧
      (c.performAll singles s).2 = (c.performAll calls s).2) ∧
    (∀ op, samples marks op =
      samples s.marks op + singles.countP fun call => call.operation? = some op) ∧
    (∀ op status, replies marks op status =
      replies s.marks op status + (c.turns singles s).countP fun t =>
        op ≠ .copy ∧ t.call.operation? = some op ∧ t.status? = some status) ∧
    (∀ status, replies marks .copy status = replies s.marks .copy status) ∧
    ∀ call s, (c.perform s call).1 = c.unmeasured s.network call := by
  intro singles marks
  have hsingle : ∀ call ∈ singles, call.isSingle = true := fun _ => isSingle_of_mem_allSingles
  have hsession := c.snd_performAll_allSingles calls s
  have hmarks : marks = s.marks ++ (c.turns singles s).flatMap (·.marks) := by
    rw [← marks_performAll hsingle, hsession]
  have hreplies : ∀ op status, replies marks op status = replies s.marks op status +
      (c.turns singles s).countP fun t =>
        op ≠ .copy ∧ t.call.operation? = some op ∧ t.status? = some status := by
    intro op status
    rw [← replies_flatMap, hmarks]
    exact List.count_append
  refine ⟨⟨hsingle, hsession⟩, fun op => ?_, hreplies, fun status => ?_,
    fun call s => c.fst_perform s call⟩
  · have hcount := samples_flatMap (c.turns singles s) op
    rw [map_call_turns] at hcount
    rw [← hcount, hmarks]
    exact List.count_append
  · simpa using hreplies .copy status

end Client

end MediaVault
