import MeshScenes.Proofs.Network
import MeshScenes.Proofs.Registry
import MeshScenes.Proofs.Switching

/-!
# Controllers and their keypads

In a closed hub every registered controller is a keypad of the network, so what is asked of it is
answered at once: a light that is asked for is told, and lights that are written are told as they
were written.
-/

namespace MeshScenes

/-- Every registered controller is a keypad of the network, which is the directory. -/
structure Wired (directory : Directory) (s : Registry × Outlet Network) : Prop where
  sound : s.2.channel.Sound
  known : s.2.channel.directory = directory
  keypad : ∀ d c, s.1.get? d = some c → c.device = d ∧ c.supportsIndicator = true ∧
    ∃ x, directory d = some x ∧ x.deviceClass.isSceneController = true

namespace Wired

variable {directory : Directory} {r : Registry} {o o' : Outlet Network} {d : DeviceId}
  {c : Controller}

theorem exists_keypad (h : Wired directory (r, o)) (hc : r.get? d = some c) :
    ∃ k, o.channel.nodes.get? d = some (.keypad k) := by
  obtain ⟨-, -, x, hx, hclass⟩ := h.keypad d c hc
  exact Network.exists_keypad (h.known.symm ▸ hx) hclass

theorem of_same (h : Wired directory (r, o)) (hn : o'.channel.nodes = o.channel.nodes)
    (hp : ∀ f ∈ o'.channel.published, f ∈ o.channel.published) : Wired directory (r, o') := by
  refine ⟨⟨fun d node hd => ?_, fun f hf => ?_⟩, ?_, h.keypad⟩
  · exact h.sound.own d node (by rw [← hn]; exact hd)
  · exact h.sound.plain f (hp f hf)
  · rw [← h.known]
    unfold Network.directory
    rw [hn]

theorem forget (h : Wired directory (r, o)) {r' : Registry}
    (hr : ∀ d c, r'.get? d = some c → r.get? d = some c) :
    Wired directory (r', o) :=
  ⟨h.sound, h.known, fun d c hc => h.keypad d c (hr d c hc)⟩

theorem insert (h : Wired directory (r, o)) (hdevice : c.device = d)
    (hs : c.supportsIndicator = true)
    (hx : ∃ x, directory d = some x ∧ x.deviceClass.isSceneController = true) :
    Wired directory (r.insert d c, o) := by
  refine ⟨h.sound, h.known, fun e y hy => ?_⟩
  rw [ByteMap.get?_insert] at hy
  split at hy
  next hed => cases hy; rw [hed]; exact ⟨hdevice, hs, hx⟩
  next => exact h.keypad e y hy

theorem insert_alike (h : Wired directory (r, o)) (hc : r.get? d = some c) {c' : Controller}
    (ha : c.Alike c') :
    Wired directory (r.insert d c', o) := by
  obtain ⟨hdevice, hs, hx⟩ := h.keypad d c hc
  exact h.insert (ha.device.trans hdevice) (ha.supportsIndicator.trans hs) hx

theorem touched (h : Wired directory (r, o)) {l : UInt8} {new : List InboundFrame}
    (ht : o.channel.Touched d l new o'.channel) : Wired directory (r, o') :=
  ⟨ht.sound h.sound, ht.directory.trans h.known, h.keypad⟩

theorem send (h : Wired directory (r, o)) (f : OutboundFrame) : Wired directory (r, (o.send f).2) :=
  ⟨h.sound.deliver f, (Network.directory_deliver _ f).trans h.known, h.keypad⟩

/-! ## What is told -/

theorem told_asked (h : Wired directory (r, o)) (hc : r.get? d = some c)
    (htook : Outlet.Took c.askFrames o o') :
    ∃ l, o.channel.lights? d = some l ∧ o.channel.Told d l o'.channel := by
  obtain ⟨hdevice, hs, -⟩ := h.keypad d c hc
  obtain ⟨k, hk⟩ := h.exists_keypad hc
  have hframes : c.askFrames = [.askLights d] := by
    unfold Controller.askFrames
    rw [if_pos hs, hdevice]
  refine ⟨k.lights, Network.lights?_of_keypad hk, ?_⟩
  rw [htook.channel, hframes]
  exact Network.told_ask h.sound hk

theorem told_attached (h : Wired directory (r, o)) {count : UInt8} {es : List Journal.Entry}
    (hc : Registry.Attached directory d count c)
    (hsend : (o.noted es).sendAll c.askFrames = (none, o')) :
    Wired directory (r.insert d c, o) ∧ ∃ l, o.channel.lights? d = some l ∧
      o.channel.Told d l o'.channel := by
  obtain ⟨x, hx, hfits⟩ := hc.fits
  have hindicator : x.supports .indicator = true :=
    Network.supports_indicator (h.known.symm ▸ hx) hfits.isController
  have hwired : Wired directory (r.insert d c, o) :=
    h.insert hc.device (hfits.indicator.trans hindicator) ⟨x, hx, hfits.isController⟩
  obtain ⟨o₁, hsend', htook⟩ :=
    Outlet.took_sendAll (o := o.noted es) (Network.accepts _) c.askFrames
  rw [hsend] at hsend'
  cases hsend'
  have hget : (r.insert d c).get? d = some c := by
    rw [ByteMap.get?_insert, if_pos rfl]
  exact ⟨hwired, hwired.told_asked hget ⟨htook.channel, htook.attempts⟩⟩

theorem switchFrames_eq (h : Wired directory (r, o)) (hc : r.get? d = some c) {b : ButtonId}
    {on : Bool} (hl : lightAt c.indicator b.place ≠ on) :
    c.switchFrames b on = [.setLights d (c.switched b on).indicator, .askLights d] := by
  obtain ⟨hdevice, hs, -⟩ := h.keypad d c hc
  unfold Controller.switchFrames
  rw [if_neg hl, if_pos hs, hdevice]

theorem told_switched (h : Wired directory (r, o)) (hc : r.get? d = some c) {b : ButtonId}
    {on : Bool} (htook : Outlet.Took (c.switchFrames b on) o o') :
    c.switched b on = c ∧ o'.channel = o.channel ∨
      o.channel.Told d (c.switched b on).indicator o'.channel := by
  obtain ⟨k, hk⟩ := h.exists_keypad hc
  by_cases hl : lightAt c.indicator b.place = on
  · left
    rw [Controller.switchFrames_of_lit hl] at htook
    exact ⟨Controller.switched_of_lit hl, htook.channel⟩
  · right
    rw [htook.channel, h.switchFrames_eq hc hl]
    exact Network.told_write h.sound _ hk

end Wired

end MeshScenes
