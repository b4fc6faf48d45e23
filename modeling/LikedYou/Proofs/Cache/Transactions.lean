import LikedYou.Cache.Durable

/-!
# What lasts through all transactions

* `Durable.Lasting` — whether the transactions of a cache preserve what is asked of its tables
* `Lasting.after_set`, `Lasting.after_get`, `Lasting.after_delete`, `Lasting.after_purge` — then so do
  its calls, those that fail included

A call is made of transactions, each of which gives the changed tables or leaves no trace. So what is
to be shown of every call is shown of the four kinds of transactions.
-/

namespace LikedYou.Durable

/-- Whether the transactions that a cache makes at some time preserve what is asked of its tables. -/
structure Lasting (now : Int64) (P : Tables → Prop) : Prop where
  write {t t' : Tables} {room : Room} {key : Bytes} {value : String} {ttl : Time.Duration} : P t →
    t.write room key (encodeEntry value (expiryAfter ttl now)) (expiryAfter ttl now) = .ok t' → P t'
  removeAll {t t' : Tables} {keys : List Bytes} {deleted deleted' : Nat} : P t →
    t.removeAll keys deleted = .ok (deleted', t') → P t'
  reclaim {t t' : Tables} {key : Bytes} {removed : Bool} : P t →
    t.reclaim key now = .ok (removed, t') → P t'
  purge {t t' : Tables} {removed : Nat} : P t → t.purge now = .ok (removed, t') → P t'

namespace Lasting

variable {now : Int64} {P : Tables → Prop} {c : Durable}

theorem after_purge (h : Lasting now P) (hc : P c.tables) : P (c.purge now).2.tables := by
  unfold Durable.purge
  split
  · exact hc
  · next removed tables hpurge => exact h.purge hc hpurge

theorem after_countWrite (h : Lasting now P) (hc : P c.tables) : P (c.countWrite now).tables := by
  unfold Durable.countWrite
  simp only
  split
  · exact h.after_purge (c := { c with writes := c.writes + 1 }) hc
  · exact hc

theorem after_write {c' : Durable} {key value : String} {ttl : Time.Duration} (h : Lasting now P)
    (hc : P c.tables) (hwrite : c.write key value (expiryAfter ttl now) = .ok c') : P c'.tables := by
  unfold Durable.write at hwrite
  simp only at hwrite
  split at hwrite
  · cases hwrite
  · next tables htables =>
    cases hwrite
    exact h.write hc htables

theorem after_set (h : Lasting now P) (hc : P c.tables) (key value : String) (ttl : Time.Duration) :
    P (c.set key value ttl now).2.tables := by
  have hcounted := h.after_countWrite hc
  unfold Durable.set Durable.writeOrPurge
  split
  · next c' hwrite => exact h.after_write hcounted hwrite
  · -- there is no room: after a purge the write is tried once more
    have hpurged := h.after_purge hcounted
    split
    · next f c' hpurge =>
      rw [hpurge] at hpurged
      exact hpurged
    · next removed c' hpurge =>
      rw [hpurge] at hpurged
      split
      · next c'' hwrite => exact h.after_write hpurged hwrite
      · exact hpurged
  · exact hcounted

theorem after_get (h : Lasting now P) (hc : P c.tables) (key : String) :
    P (c.get key now).2.tables := by
  unfold Durable.get
  simp only
  split
  · exact hc
  · exact hc
  · split
    · exact hc
    · exact hc
    · split
      · exact hc
      · next tables hreclaim => exact h.reclaim hc hreclaim
      · next tables hreclaim => exact h.reclaim hc hreclaim

theorem after_delete (h : Lasting now P) (hc : P c.tables) (keys : List String) :
    P (c.delete keys).2.tables := by
  unfold Durable.delete
  split
  · exact hc
  · next deleted tables hall => exact h.removeAll hc hall

end Lasting

end LikedYou.Durable
