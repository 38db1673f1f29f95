/-!
What a sound is played for, and the volume stream that follows from it. Callers
that still speak stream numbers fix the stream; it then wins over the usage.
-/
namespace AlertSound

inductive Usage where
  | unknown
  | media
  | voiceCommunication
  | alarm
  | notification
  | notificationRingtone
  | notificationEvent
  | assistanceSonification
  | game
  deriving DecidableEq

inductive Content where
  | unknown
  | speech
  | music
  | movie
  | sonification
  deriving DecidableEq

inductive SoundStream where
  | voiceCall
  | system
  | ring
  | music
  | alarm
  | notification
  | dtmf
  deriving DecidableEq

def Usage.all : List Usage :=
  [.unknown, .media, .voiceCommunication, .alarm, .notification, .notificationRingtone,
    .notificationEvent, .assistanceSonification, .game]

def Usage.name : Usage → String
  | .unknown => "Unknown"
  | .media => "Media"
  | .voiceCommunication => "VoiceCommunication"
  | .alarm => "Alarm"
  | .notification => "Notification"
  | .notificationRingtone => "NotificationRingtone"
  | .notificationEvent => "NotificationEvent"
  | .assistanceSonification => "AssistanceSonification"
  | .game => "Game"

def Content.all : List Content := [.unknown, .speech, .music, .movie, .sonification]

def Content.name : Content → String
  | .unknown => "Unknown"
  | .speech => "Speech"
  | .music => "Music"
  | .movie => "Movie"
  | .sonification => "Sonification"

namespace SoundStream

def all : List SoundStream :=
  [.voiceCall, .system, .ring, .music, .alarm, .notification, .dtmf]

def name : SoundStream → String
  | .voiceCall => "VoiceCall"
  | .system => "System"
  | .ring => "Ring"
  | .music => "Music"
  | .alarm => "Alarm"
  | .notification => "Notification"
  | .dtmf => "Dtmf"

/-- The number that callers without names use. -/
def number : SoundStream → Int
  | .voiceCall => 0
  | .system => 1
  | .ring => 2
  | .music => 3
  | .alarm => 4
  | .notification => 5
  | .dtmf => 8

def ofNumber? (n : Int) : Option SoundStream := all.find? fun stream => stream.number == n

end SoundStream

structure Attributes where
  usage : Usage
  content : Content
  legacyStream : Option SoundStream
  deriving DecidableEq

namespace Attributes

def of (usage : Usage) (content : Content) : Attributes := ⟨usage, content, none⟩

def ofStream (stream : SoundStream) : Attributes :=
  let (usage, content) : Usage × Content :=
    match stream with
    | .voiceCall => (.voiceCommunication, .speech)
    | .system => (.assistanceSonification, .sonification)
    | .ring => (.notificationRingtone, .sonification)
    | .music => (.media, .music)
    | .alarm => (.alarm, .sonification)
    | .notification => (.notification, .sonification)
    | .dtmf => (.unknown, .sonification)
  ⟨usage, content, some stream⟩

/-- A ringtone. -/
def ordinary : Attributes := of .notificationRingtone .sonification

def stream (a : Attributes) : SoundStream :=
  a.legacyStream.getD <|
    match a.usage with
    | .voiceCommunication => .voiceCall
    | .alarm => .alarm
    | .notificationRingtone => .ring
    | .notification | .notificationEvent => .notification
    | .assistanceSonification => .system
    | .media | .game | .unknown => .music

end Attributes
end AlertSound
