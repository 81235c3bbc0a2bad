import DegreeAudit.Text.Blank

namespace DegreeAudit

/-!
The buckets credits are counted in. Every course is in one bucket, and every bucket belongs either
to the basic or to the advanced part of the studies.
-/

/-- A bucket of credits. -/
inductive Bucket where
  | math
  | physics
  | chemistry
  | biology
  | engineeringCore
  | engineeringSelect
  | humanities
  | english
  | artsAndSports
  | track
  | nonTrack
  | ugrp
  | internship
  | other
  deriving DecidableEq, Repr

namespace Bucket

/-- All buckets, in the order in which they are listed. -/
def all : List Bucket :=
  [
    math, physics, chemistry, biology, engineeringCore, engineeringSelect, humanities, english,
    artsAndSports, track, nonTrack, ugrp, internship, other
  ]

theorem mem_all (bucket : Bucket) : bucket ∈ all := by
  cases bucket <;> decide

/-- The name of a bucket in documents and commands. -/
def id : Bucket -> String
  | math => "basic-math"
  | physics => "basic-science-physics"
  | chemistry => "basic-science-chem"
  | biology => "basic-science-bio"
  | engineeringCore => "basic-eng-core"
  | engineeringSelect => "basic-eng-select"
  | humanities => "basic-hss"
  | english => "basic-english"
  | artsAndSports => "basic-artspe"
  | track => "adv-track"
  | nonTrack => "adv-nontrack"
  | ugrp => "adv-ugrp"
  | internship => "adv-intern"
  | other => "adv-other"

/-- The name of a bucket for people to read. -/
def label : Bucket -> String
  | math => "기초 · 수학"
  | physics => "기초 · 과학(물리)"
  | chemistry => "기초 · 과학(화학)"
  | biology => "기초 · 과학(생명)"
  | engineeringCore => "기초 · 공학(컴퓨터공학)"
  | engineeringSelect => "기초 · 공학선택"
  | humanities => "기초 · 인문사회(쓰기·읽기·말하기)"
  | english => "기초 · 영어"
  | artsAndSports => "기초 · 예체능(2020만)"
  | track => "심화 · 트랙(전공)"
  | nonTrack => "심화 · 비트랙/융합"
  | ugrp => "심화 · UGRP"
  | internship => "심화 · 인턴십"
  | other => "심화 · 기타"

/-- Whether the credits of a bucket count as advanced ones. -/
def isAdvanced : Bucket -> Bool
  | track | nonTrack | ugrp | internship | other => true
  | _ => false

/-- Whether the credits of a bucket count as basic ones. -/
def isBasic (bucket : Bucket) : Bool :=
  !bucket.isAdvanced

/-- The buckets of the sciences. -/
def sciences : List Bucket := [physics, chemistry, biology]

/-- The bucket of a name. -/
def ofId? (name : String) : Option Bucket :=
  all.find? fun bucket => bucket.id == name

/-- The bucket that a text names, with blanks around the name or without. -/
def read? (text : String) : Option Bucket :=
  ofId? (String.ofList (Text.trim text.toList))

theorem ofId?_id (bucket : Bucket) : ofId? bucket.id = some bucket := by
  cases bucket <;> decide

theorem id_of_ofId? {name : String} {bucket : Bucket} (found : ofId? name = some bucket) :
    bucket.id = name := by
  simpa using List.find?_some found

end Bucket
end DegreeAudit
