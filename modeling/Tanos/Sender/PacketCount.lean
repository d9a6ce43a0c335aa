import Tanos.Sender.SynchronousSender

/-!
# The number of packets over the whole range of object sizes

Both sending functions compute the number of packets and the number of bytes of a mode in
`uint32_t`, before the latter goes into a 64-bit variable. `objectBytes_eq_mod` and
`toNat_numberPackets_eq_mod` are the two results modulo `2 ^ 32`. The product alone wraps around
from `2 ^ 22` kilobytes on, the sum that rounds up one kilobyte before that, where the number of
packets is zero (`countsExactly_iff`).
-/

set_option autoImplicit false
set_option relaxedAutoImplicit false

namespace Tanos

/-- The number of packets is the number of bytes over the payload of a full packet, rounded up, and
an object of the mode starts with all its bytes remaining. -/
structure ServiceSettings.CountsExactly (settings : ServiceSettings) : Prop where
  numberPackets_eq :
    settings.numberPackets.toNat = settings.objectSize.toNat * 1024 ⌈/⌉ maxProtocolMessageLength
  remainingBytes_eq : ∀ (kind : SenderKind) (sender : Sender) (clock : Timespec),
    sender.phase = .buildObject → sender.currentSettings = some settings →
      (sender.step kind (.run clock)).1.remainingBytes = settings.objectSize.toNat * 1024

namespace ServiceSettings

theorem objectBytes_eq_mod (settings : ServiceSettings) :
    settings.objectBytes = settings.objectSize.toNat * 1024 % 2 ^ 32 := by
  have hkilo : (1024 : UInt32).toNat = 1024 := rfl
  rw [objectBytes, UInt32.toNat_mul, hkilo]

theorem toNat_numberPackets_eq_mod (settings : ServiceSettings) :
    settings.numberPackets.toNat =
      (settings.objectSize.toNat * 1024 + 1426) % 2 ^ 32 / 1427 := by
  have hbytes : (settings.objectSize * 1024).toNat = settings.objectSize.toNat * 1024 % 2 ^ 32 :=
    settings.objectBytes_eq_mod
  have hlength : (1427 : UInt32).toNat = 1427 := rfl
  have hone : (1 : UInt32).toNat = 1 := rfl
  have hsum : (settings.objectSize * 1024 + 1427 - 1).toNat =
      (settings.objectSize.toNat * 1024 + 1426) % 2 ^ 32 := by
    rw [UInt32.toNat_sub, UInt32.toNat_add, hbytes, hlength, hone]
    omega
  rw [numberPackets, UInt32.toNat_div, hsum, hlength]

/-- The number of bytes is exact below `2 ^ 22` kilobytes. -/
theorem objectBytes_eq_iff (settings : ServiceSettings) :
    settings.objectBytes = settings.objectSize.toNat * 1024 ↔
      settings.objectSize.toNat < 2 ^ 22 := by
  rw [objectBytes_eq_mod]
  omega

/-- The number of packets is exact up to one kilobyte less. -/
theorem toNat_numberPackets_eq_iff (settings : ServiceSettings) :
    settings.numberPackets.toNat =
        settings.objectSize.toNat * 1024 ⌈/⌉ maxProtocolMessageLength ↔
      settings.objectSize.toNat + 1 < 2 ^ 22 := by
  have hceil : settings.objectSize.toNat * 1024 ⌈/⌉ maxProtocolMessageLength =
      (settings.objectSize.toNat * 1024 + 1427 - 1) / 1427 :=
    Nat.ceilDiv_eq_add_pred_div _ _
  rw [toNat_numberPackets_eq_mod, hceil]
  by_cases hsize : settings.objectSize.toNat + 1 < 2 ^ 22
  · have hsum : (settings.objectSize.toNat * 1024 + 1426) % 2 ^ 32 =
        settings.objectSize.toNat * 1024 + 1426 := Nat.mod_eq_of_lt (by omega)
    rw [hsum]
    exact iff_of_true rfl hsize
  · have hlt := settings.objectSize.toNat_lt
    refine iff_of_false ?_ hsize
    omega

/-- Whichever sender starts an object, the remaining bytes are those of its mode. -/
theorem remainingBytes_step {settings : ServiceSettings} (kind : SenderKind) {sender : Sender}
    (clock : Timespec) (hphase : sender.phase = .buildObject)
    (hsettings : sender.currentSettings = some settings) :
    (sender.step kind (.run clock)).1.remainingBytes = settings.objectBytes := by
  simp only [Sender.step, Sender.run, hphase, Sender.buildObject,
    Sender.withSettings_of_some hsettings]

/-- For every object size, the number of packets and the number of bytes are exact precisely when
the object has at least two kilobytes less than `2 ^ 32` bytes. -/
theorem countsExactly_iff (settings : ServiceSettings) :
    settings.CountsExactly ↔ settings.objectSize.toNat + 2 ≤ 2 ^ 22 := by
  constructor
  · intro hcounts
    exact (toNat_numberPackets_eq_iff settings).mp hcounts.numberPackets_eq
  · intro hsize
    refine ⟨(toNat_numberPackets_eq_iff settings).mpr hsize, ?_⟩
    intro kind sender clock hphase hsettings
    rw [remainingBytes_step kind clock hphase hsettings]
    exact (objectBytes_eq_iff settings).mpr (by omega)

/-- An object of 4194303 kilobytes has no packet. -/
theorem not_countsExactly_noPacket :
    ¬ CountsExactly { (default : ServiceSettings) with objectSize := 4194303 } := by
  intro hcounts
  have hsize := (toNat_numberPackets_eq_iff _).mp hcounts.numberPackets_eq
  exact absurd hsize (by decide)

end ServiceSettings

end Tanos
