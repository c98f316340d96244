import Mathlib.Data.List.Forall2
import MeshScenes.Act

/-!
# Sending several frames

A list of frames is sent up to the first one that is refused. What was tried is among the frames of
the list; a channel that accepts everything takes all of them, in order.
-/

namespace MeshScenes

namespace Channel

variable {χ : Type} [Channel χ]

def sendAll (fs : List OutboundFrame) (c : χ) : χ := fs.foldl (fun c f => (send f c).channel) c

/-- A channel that refuses nothing from now on. -/
def Accepts (c : χ) : Prop := ∀ fs f, (send f (sendAll fs c)).refusal = none

theorem Accepts.refusal {c : χ} (h : Accepts c) (f : OutboundFrame) :
    (send f c).refusal = none := h [] f

theorem Accepts.sendAll {c : χ} (h : Accepts c) (fs : List OutboundFrame) :
    Accepts (sendAll fs c) := by
  intro gs g
  have := h (fs ++ gs) g
  rwa [Channel.sendAll, List.foldl_append] at this

theorem Accepts.send {c : χ} (h : Accepts c) (f : OutboundFrame) :
    Accepts (send f c).channel := h.sendAll [f]

end Channel

namespace Outlet

variable {χ : Type}

def noted (o : Outlet χ) (es : List Journal.Entry) : Outlet χ :=
  { o with journal := o.journal ++ es }

theorem note_noted (o : Outlet χ) (es : List Journal.Entry) (e : Journal.Entry) :
    (o.noted es).note e = o.noted (es ++ [e]) := by
  simp [noted, note]

theorem noted_note (o : Outlet χ) (e : Journal.Entry) (es : List Journal.Entry) :
    (o.note e).noted es = o.noted (e :: es) := by
  simp [noted, note]

variable [Channel χ]

/-- Hands frames to the channel, up to the first one that is refused. -/
def sendAll (o : Outlet χ) : List OutboundFrame → Option TransportFailure × Outlet χ
  | [] => (none, o)
  | f :: fs =>
    match o.send f with
    | (none, o) => o.sendAll fs
    | (some refusal, o) => (some refusal, o)

theorem send_of_accepts {o : Outlet χ} (h : Channel.Accepts o.channel) (f : OutboundFrame) :
    ∃ es, o.send f =
      (none, ⟨(Channel.send f o.channel).channel, o.attempts ++ [⟨f, true⟩], es⟩) := by
  refine ⟨o.journal ++ (Channel.send f o.channel).notes, ?_⟩
  simp [send, h.refusal f]

theorem sendAll_of_accepts {o : Outlet χ} (h : Channel.Accepts o.channel)
    (fs : List OutboundFrame) :
    ∃ es, o.sendAll fs =
      (none, ⟨Channel.sendAll fs o.channel, o.attempts ++ fs.map (Attempt.mk · true), es⟩) := by
  induction fs generalizing o with
  | nil => exact ⟨o.journal, by simp [sendAll, Channel.sendAll]⟩
  | cons f fs ih =>
    obtain ⟨es, hs⟩ := send_of_accepts h f
    obtain ⟨es', ht⟩ :=
      ih (o := ⟨(Channel.send f o.channel).channel, o.attempts ++ [⟨f, true⟩], es⟩) (h.send f)
    refine ⟨es', ?_⟩
    simp only [sendAll, hs, ht, Channel.sendAll, List.foldl_cons, List.map_cons, List.append_assoc,
      List.singleton_append]

theorem attempts_sendAll (o : Outlet χ) (fs : List OutboundFrame) :
    ∃ as, (o.sendAll fs).2.attempts = o.attempts ++ as ∧ ∀ a ∈ as, a.frame ∈ fs := by
  induction fs generalizing o with
  | nil => exact ⟨[], by simp [sendAll]⟩
  | cons f fs ih =>
    have hf : (o.send f).2.attempts = o.attempts ++ [⟨f, (o.send f).1.isNone⟩] := rfl
    unfold sendAll
    rcases hs : o.send f with ⟨_ | refusal, o'⟩ <;> rw [hs] at hf
    · obtain ⟨as, ha, hm⟩ := ih o'
      refine ⟨⟨f, true⟩ :: as, ?_, ?_⟩
      · simp only [ha]
        rw [hf]
        simp
      · intro a h
        rcases List.mem_cons.mp h with rfl | h
        · exact List.mem_cons_self
        · exact List.mem_cons_of_mem _ (hm a h)
    · exact ⟨_, hf, by simp⟩

end Outlet

namespace Act

variable {σ χ : Type}

theorem run_notes (es : List Journal.Entry) (s : σ × Outlet χ) :
    (notes es : Act σ χ Unit) s = .ok () (s.1, s.2.noted es) := by
  unfold notes
  induction es generalizing s with
  | nil => simp [Outlet.noted]
  | cons e es ih =>
    rw [List.forM_eq_forM, List.forM_cons, run_bind, run_note]
    show forM es note _ = _
    rw [← List.forM_eq_forM, ih]
    simp [Outlet.noted, Outlet.note]

theorem run_requests [Channel χ] {rs : List (DeviceId × Request)} {fs : List OutboundFrame}
    (h : List.Forall₂ (fun r f => r.2.frame r.1 = .ok f) rs fs) (s : σ × Outlet χ) :
    (requests rs : Act σ χ Unit) s = match s.2.sendAll fs with
      | (none, o) => .ok () (s.1, o)
      | (some refusal, o) => .error (.transport refusal) (s.1, o) := by
  unfold requests
  induction h generalizing s with
  | nil => simp [Outlet.sendAll]
  | @cons r f rs fs hf _ ih =>
    rw [List.forM_eq_forM, List.forM_cons, run_bind]
    have hr : (request r.1 r.2 : Act σ χ Unit) s = send f s := by
      unfold request
      rw [run_bind, hf]
      rfl
    rw [hr]
    unfold send Outlet.sendAll
    rcases s.2.send f with ⟨_ | refusal, o⟩
    · exact ih (s.1, o)
    · rfl

end Act

end MeshScenes
