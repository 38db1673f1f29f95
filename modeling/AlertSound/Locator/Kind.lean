/-!
The sounds a device has defaults for, and the setting that holds each of them.
-/
namespace AlertSound

/-- A sound a default is configured for. A device has up to `ringtoneSlots`
ringtones; slots beyond them can be named but are never offered. -/
inductive DefaultKind where
  | ringtone (slot : UInt8)
  | notification
  | messageNotification
  | alarm
  deriving DecidableEq

def ringtoneSlots : UInt8 := 3

namespace DefaultKind

def ringtone? (slot : UInt8) : Option DefaultKind :=
  if slot < ringtoneSlots then some (.ringtone slot) else none

/-- Slots past the last one share its setting. -/
def settingKey : DefaultKind → String
  | .ringtone slot =>
    if slot = 0 then "ringtone" else if slot = 1 then "ringtone_2" else "ringtone_3"
  | .notification => "notification_sound"
  | .messageNotification => "mms_notification"
  | .alarm => "alarm_alert"

def all : List DefaultKind :=
  [.ringtone 0, .ringtone 1, .ringtone 2, .notification, .messageNotification, .alarm]

def ofSettingKey? (key : String) : Option DefaultKind :=
  all.find? fun kind => kind.settingKey == key

def slot? : DefaultKind → Option UInt8
  | .ringtone slot => some slot
  | _ => none

def isRingtone (kind : DefaultKind) : Bool := kind.slot?.isSome

end DefaultKind
end AlertSound
