import MarketWire.Record.Layout
import MarketWire.Record.Shape

/-!
# Pulse records

Posts of the social feed hold the profile of their author as a row of its own, flat or wrapped once.
A post without a profile is still a post.
-/
namespace MarketWire

structure Profile where
  id : String
  mtsCreate : Int64
  nickname : String
  picture : String
  text : String
  twitterHandle : String
  followers : Int64
  following : Int64
deriving DecidableEq

namespace Profile

def layout : Layout Profile where
  record := "profile"
  least := 10
  columns := [
    ⟨"id", 0, .text⟩,
    ⟨"mts_create", 1, .integer⟩,
    ⟨"nickname", 3, .text⟩,
    ⟨"picture", 5, .text⟩,
    ⟨"text", 6, .text⟩,
    ⟨"twitter_handle", 9, .text⟩,
    ⟨"followers", 11, .integer⟩,
    ⟨"following", 12, .integer⟩]
  build := fun (id, mtsCreate, nickname, picture, text, twitterHandle, followers, following, ()) =>
    .ok ⟨id, mtsCreate, nickname, picture, text, twitterHandle, followers, following⟩

def shape : Shape Profile where
  slots := [
    ("id", .text), ("mts_create", .integer), ("nickname", .text), ("picture", .text),
    ("text", .text), ("twitter_handle", .text), ("followers", .integer), ("following", .integer)]
  split := fun p =>
    (p.id, p.mtsCreate, p.nickname, p.picture, p.text, p.twitterHandle, p.followers, p.following, ())
  join := fun (id, mtsCreate, nickname, picture, text, twitterHandle, followers, following, ()) =>
    ⟨id, mtsCreate, nickname, picture, text, twitterHandle, followers, following⟩

/-- A profile inside of a post, where no elements or a lone `null` mean none. -/
def ofNested : Option (List Json.Value) → Except DecodeError (Option Profile)
  | none | some [] | some [.null] => .ok none
  | some [.array values] => (layout.decode values).map some
  | some values => (layout.decode values).map some

end Profile

structure Post where
  id : String
  mts : Int64
  userId : String
  title : String
  content : String
  pinned : Bool
  isPublic : Bool
  commentsDisabled : Bool
  tags : List String
  attachments : List String
  details : Json.Value
  likes : Int64
  profile : Option Profile

namespace Post

def layout : Layout Post where
  record := "post"
  least := 12
  columns := [
    ⟨"id", 0, .text⟩,
    ⟨"mts", 1, .integer⟩,
    ⟨"user_id", 3, .text⟩,
    ⟨"title", 5, .text⟩,
    ⟨"content", 6, .text⟩,
    ⟨"pinned", 9, .flag⟩,
    ⟨"public", 10, .flag⟩,
    ⟨"comments_disabled", 11, .flag⟩,
    ⟨"tags", 12, .texts⟩,
    ⟨"attachments", 13, .texts⟩,
    ⟨"meta", 14, .raw⟩,
    ⟨"likes", 15, .integer⟩,
    ⟨"profile", 18, .nested⟩]
  build := fun (id, mts, userId, title, content, pinned, isPublic, commentsDisabled, tags, attachments,
      details, likes, nested, ()) =>
    (Profile.ofNested nested).map fun profile =>
      ⟨id, mts, userId, title, content, pinned, isPublic, commentsDisabled, tags, attachments, details,
        likes, profile⟩

def shape : Shape Post where
  slots := [
    ("id", .text), ("mts", .integer), ("user_id", .text), ("title", .text), ("content", .text),
    ("pinned", .flag), ("public", .flag), ("comments_disabled", .flag), ("tags", .texts),
    ("attachments", .texts), ("meta", .free), ("likes", .integer),
    ("profile", .optional Profile.shape.slot)]
  split := fun p =>
    (p.id, p.mts, p.userId, p.title, p.content, p.pinned, p.isPublic, p.commentsDisabled, p.tags,
      p.attachments, p.details, p.likes, p.profile, ())
  join := fun (id, mts, userId, title, content, pinned, isPublic, commentsDisabled, tags, attachments,
      details, likes, profile, ()) =>
    ⟨id, mts, userId, title, content, pinned, isPublic, commentsDisabled, tags, attachments, details,
      likes, profile⟩

end Post
end MarketWire
