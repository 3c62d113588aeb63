import Mathlib.Data.List.Basic
import Mathlib.Data.List.Forall2
import Mathlib.Data.List.Range
import Mathlib.Data.Nat.Notation
import Mathlib.Logic.Function.Basic
import Mathlib.Logic.Relation

/-! # Requests and their replies

What a service does, seen from outside: requests come in on channels and are numbered there, and a
reply is given to a request that has none yet. A channel may be *ordered*; then the request that is
replied to is always the oldest one without a reply. `Exact` is what holds of every history of a
service: each reply answers the request with its number, no request is answered twice, and on an
ordered channel the replies answer the requests in order. A program implements a service when each of
its steps is one of `Step`, or several, or none. -/

namespace RequestReply

variable {κ Req Rep : Type*}

/-- The requests of the channels, and the replies with the numbers of the requests they are for. -/
structure Service (κ Req Rep : Type*) where
  /-- The requests, in the order they came. -/
  requests : κ → List Req
  /-- The replies, in the order they were given. -/
  replies : κ → List (ℕ × Rep)

namespace Service

/-- The service at its start, without requests and replies. -/
def start : Service κ Req Rep := ⟨fun _ => [], fun _ => []⟩

/-- The numbers of the requests that have a reply. -/
def answered (s : Service κ Req Rep) (k : κ) : List ℕ := (s.replies k).map Prod.fst

variable [DecidableEq κ] (s : Service κ Req Rep)

/-- The service when a request has come in on a channel. -/
def request (k : κ) (req : Req) : Service κ Req Rep :=
  { s with requests := Function.update s.requests k (s.requests k ++ [req]) }

/-- The service when a request, by its number on the channel, has got a reply. -/
def reply (k : κ) (i : ℕ) (rep : Rep) : Service κ Req Rep :=
  { s with replies := Function.update s.replies k (s.replies k ++ [(i, rep)]) }

@[simp] theorem requests_request_self (k : κ) (req : Req) :
    (s.request k req).requests k = s.requests k ++ [req] := Function.update_self _ _ _

theorem requests_request_of_ne {k k' : κ} (req : Req) (h : k' ≠ k) :
    (s.request k req).requests k' = s.requests k' := Function.update_of_ne h _ _

@[simp] theorem replies_reply_self (k : κ) (i : ℕ) (rep : Rep) :
    (s.reply k i rep).replies k = s.replies k ++ [(i, rep)] := Function.update_self _ _ _

theorem replies_reply_of_ne {k k' : κ} (i : ℕ) (rep : Rep) (h : k' ≠ k) :
    (s.reply k i rep).replies k' = s.replies k' := Function.update_of_ne h _ _

@[simp] theorem answered_reply_self (k : κ) (i : ℕ) (rep : Rep) :
    (s.reply k i rep).answered k = s.answered k ++ [i] := by
  rw [answered, replies_reply_self, List.map_append]
  rfl

theorem answered_reply_of_ne {k k' : κ} (i : ℕ) (rep : Rep) (h : k' ≠ k) :
    (s.reply k i rep).answered k' = s.answered k' := by
  rw [answered, replies_reply_of_ne s i rep h]
  rfl

end Service

/-! ## Steps -/

section Step

variable [DecidableEq κ] (Answers : Rep → Req → Prop) (Ordered : κ → Prop)

/-- **A step of a service**: a request comes in, or one gets its reply. -/
inductive Step (s : Service κ Req Rep) : Service κ Req Rep → Prop
  /-- A request comes in on some channel. -/
  | request (k : κ) (req : Req) : Step s (s.request k req)
  /-- A request that has no reply gets one that answers it, in order where the channel is
  ordered. -/
  | reply (k : κ) {i : ℕ} {req : Req} {rep : Rep} (hreq : (s.requests k)[i]? = some req)
      (hanswers : Answers rep req) (hnew : i ∉ s.answered k)
      (hnext : Ordered k → i = (s.replies k).length) : Step s (s.reply k i rep)

/-- A history of a service: its steps one after the other. -/
abbrev Steps : Service κ Req Rep → Service κ Req Rep → Prop :=
  Relation.ReflTransGen (Step Answers Ordered)

/-- The requests of a list that are for a channel. -/
def onChannel (reqs : List (κ × Req)) (k : κ) : List Req :=
  reqs.flatMap fun r => if r.1 = k then [r.2] else []

@[simp] theorem onChannel_append (reqs reqs' : List (κ × Req)) (k : κ) :
    onChannel (reqs ++ reqs') k = onChannel reqs k ++ onChannel reqs' k := List.flatMap_append

@[simp] theorem onChannel_map_mk (reqs : List Req) (k : κ) : onChannel (reqs.map (Prod.mk k)) k = reqs := by
  simp [onChannel, List.flatMap_map]

theorem mem_onChannel {reqs : List (κ × Req)} {k : κ} {req : Req} :
    req ∈ onChannel reqs k ↔ (k, req) ∈ reqs := by
  rw [onChannel, List.mem_flatMap]
  constructor
  · rintro ⟨⟨k', req'⟩, hmem, hreq⟩
    split at hreq
    · next hk =>
        obtain rfl := List.mem_singleton.mp hreq
        obtain rfl : k' = k := hk
        exact hmem
    · cases hreq
  · intro hmem
    refine ⟨(k, req), hmem, ?_⟩
    rw [if_pos rfl]
    exact List.mem_singleton_self req

/-- **Requests that come at once** come one after the other. -/
theorem Steps.requests (s : Service κ Req Rep) (reqs : List (κ × Req)) :
    Steps Answers Ordered s { s with requests := fun k => s.requests k ++ onChannel reqs k } := by
  induction reqs generalizing s with
  | nil =>
      have hsame : (fun k => s.requests k ++ onChannel ([] : List (κ × Req)) k) = s.requests := by
        funext k
        exact List.append_nil _
      rw [hsame]
  | cons r reqs ih =>
      obtain ⟨k, req⟩ := r
      have hrest : (fun k' => s.requests k' ++ onChannel ((k, req) :: reqs) k')
          = fun k' => (s.request k req).requests k' ++ onChannel reqs k' := by
        funext k'
        rw [onChannel, List.flatMap_cons]
        by_cases hk : k = k'
        · subst hk
          rw [if_pos rfl, Service.requests_request_self, List.append_assoc]
          rfl
        · rw [if_neg hk, Service.requests_request_of_ne s req (Ne.symm hk)]
          rfl
      rw [hrest]
      exact Relation.ReflTransGen.head (.request k req) (ih (s.request k req))

end Step

/-! ## What holds of every history -/

section Exact

variable (Answers : Rep → Req → Prop) (Ordered : κ → Prop)

/-- **The replies are those of the requests.** -/
structure Exact (s : Service κ Req Rep) : Prop where
  /-- A reply answers the request with its number. -/
  answers : ∀ k, ∀ r ∈ s.replies k, ∃ req, (s.requests k)[r.1]? = some req ∧ Answers r.2 req
  /-- No request is answered twice, as no number is in two replies. -/
  once : ∀ k, (s.answered k).Nodup
  /-- An ordered channel answers in order. -/
  inOrder : ∀ k, Ordered k → s.answered k = List.range (s.replies k).length

variable {Answers Ordered}

namespace Exact

theorem start : Exact Answers Ordered (Service.start : Service κ Req Rep) where
  answers k r hr := by cases hr
  once k := List.nodup_nil
  inOrder k _ := rfl

variable {s s' : Service κ Req Rep}

/-- **On an ordered channel the replies answer the first requests**, one each. -/
theorem forall₂ (h : Exact Answers Ordered s) {k : κ} (hk : Ordered k) :
    List.Forall₂ Answers ((s.replies k).map Prod.snd)
      ((s.requests k).take (s.replies k).length) := by
  -- the reply at a place is for the request at this place
  have hreq : ∀ i (hi : i < (s.replies k).length), ∃ req, (s.requests k)[i]? = some req ∧
      Answers ((s.replies k)[i]).2 req := by
    intro i hi
    have hget : (s.answered k)[i]? = (List.range (s.replies k).length)[i]? := by
      rw [h.inOrder k hk]
    rw [Service.answered, List.getElem?_map, List.getElem?_eq_getElem hi,
      List.getElem?_range hi] at hget
    obtain ⟨req, hreq, hanswers⟩ := h.answers k _ (List.getElem_mem hi)
    rw [show ((s.replies k)[i]).1 = i from Option.some.inj hget] at hreq
    exact ⟨req, hreq, hanswers⟩
  have hle : (s.replies k).length ≤ (s.requests k).length := by
    by_contra hlt
    obtain ⟨req, hget, -⟩ := hreq (s.requests k).length (by omega)
    rw [List.getElem?_eq_none (Nat.le_refl _)] at hget
    cases hget
  rw [List.forall₂_iff_get]
  refine ⟨?_, fun i hi hi' => ?_⟩
  · rw [List.length_map, List.length_take, Nat.min_eq_left hle]
  · rw [List.length_map] at hi
    obtain ⟨req, hget, hanswers⟩ := hreq i hi
    obtain ⟨hlt, rfl⟩ := List.getElem?_eq_some_iff.mp hget
    simpa using hanswers

variable [DecidableEq κ]

/-- A step of the service keeps the replies exact. -/
theorem step (h : Exact Answers Ordered s) (hstep : Step Answers Ordered s s') :
    Exact Answers Ordered s' := by
  cases hstep with
  | request k req =>
      refine ⟨fun k' r hr => ?_, h.once, h.inOrder⟩
      obtain ⟨req', hreq', hanswers⟩ := h.answers k' r hr
      refine ⟨req', ?_, hanswers⟩
      by_cases hk : k' = k
      · subst hk
        obtain ⟨hlt, -⟩ := List.getElem?_eq_some_iff.mp hreq'
        rw [Service.requests_request_self, List.getElem?_append_left hlt]
        exact hreq'
      · rw [Service.requests_request_of_ne s req hk]
        exact hreq'
  | @reply k i req rep hreq hanswers hnew hnext =>
      refine ⟨fun k' r hr => ?_, fun k' => ?_, fun k' hk' => ?_⟩
      all_goals by_cases hk : k' = k
      · subst hk
        rw [Service.replies_reply_self] at hr
        rcases List.mem_append.mp hr with hr | hr
        · exact h.answers k' r hr
        · obtain rfl := List.mem_singleton.mp hr
          exact ⟨req, hreq, hanswers⟩
      · rw [Service.replies_reply_of_ne s i rep hk] at hr
        exact h.answers k' r hr
      · subst hk
        rw [Service.answered_reply_self, (List.perm_append_singleton i _).nodup_iff]
        exact List.nodup_cons.mpr ⟨hnew, h.once k'⟩
      · rw [Service.answered_reply_of_ne s i rep hk]
        exact h.once k'
      · subst hk
        rw [Service.answered_reply_self, Service.replies_reply_self, h.inOrder k' hk', hnext hk',
          List.length_append, List.length_singleton, List.range_succ]
      · rw [Service.answered_reply_of_ne s i rep hk, Service.replies_reply_of_ne s i rep hk]
        exact h.inOrder k' hk'

/-- **Every history keeps the replies exact.** -/
theorem steps (h : Exact Answers Ordered s) (hsteps : Steps Answers Ordered s s') :
    Exact Answers Ordered s' := by
  induction hsteps with
  | refl => exact h
  | tail _ hstep ih => exact ih.step hstep

end Exact

end Exact

end RequestReply
