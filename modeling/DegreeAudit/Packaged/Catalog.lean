import DegreeAudit.Catalog

namespace DegreeAudit

/-!
The catalog of courses that comes with the planner.
-/

namespace Packaged

/-- The courses that are offered. -/
def catalogEntries : List CatalogEntry :=
  [
    ⟨"BS101", "다변수미적분학", 3⟩,
    ⟨"BS102a", "공학수학Ⅰ", 3⟩,
    ⟨"BS201a", "공학수학Ⅱ", 3⟩,
    ⟨"BS202", "확률과 통계", 3⟩,
    ⟨"BS203", "선형대수학", 3⟩,
    ⟨"BS103a", "일반물리학Ⅰ", 3⟩,
    ⟨"BS104a", "일반물리학Ⅱ", 3⟩,
    ⟨"BS105a", "일반물리학실험Ⅰ", 1⟩,
    ⟨"BS106a", "일반물리학실험Ⅱ", 1⟩,
    ⟨"BS113", "일반화학Ⅰ", 3⟩,
    ⟨"CHEM206", "화학의 이해", 3⟩,
    ⟨"BS118", "일반화학실험Ⅰ", 1⟩,
    ⟨"BS119", "일반화학실험Ⅱ", 1⟩,
    ⟨"BS114", "일반생물학Ⅰ", 3⟩,
    ⟨"BS115", "생명과학의 이해", 3⟩,
    ⟨"BS116", "일반생물학실험Ⅰ", 1⟩,
    ⟨"BS117", "일반생물학실험Ⅱ", 1⟩,
    ⟨"BE101a", "컴퓨팅 사고와 프로그래밍", 3⟩,
    ⟨"BE201", "자료구조", 3⟩,
    ⟨"BE202", "알고리즘 기초", 3⟩,
    ⟨"BE203", "공학설계", 3⟩,
    ⟨"BE204", "회로이론", 3⟩,
    ⟨"BE205", "창의공학설계Ⅰ", 1.5⟩,
    ⟨"BE206", "창의공학설계Ⅱ", 1.5⟩,
    ⟨"HSS109a", "학술 글쓰기", 3⟩,
    ⟨"HSS110", "Scientific Writing", 3⟩,
    ⟨"HSS190", "미래 소양강좌", 1⟩,
    ⟨"HSS191", "진로탐색 및 전공설계Ⅰ", 1⟩,
    ⟨"HSS192", "진로탐색 및 전공설계Ⅱ", 1⟩,
    ⟨"ENG_AE1", "Academic EnglishⅠ", 2⟩,
    ⟨"ENG_AE2", "Academic EnglishⅡ", 2⟩,
    ⟨"PE1", "체육Ⅰ", 1⟩,
    ⟨"PE2", "체육Ⅱ", 1⟩,
    ⟨"ART_101", "음악의 이해", 2⟩,
    ⟨"UGRP401", "UGRP Ⅰ", 3⟩,
    ⟨"UGRP402", "UGRP Ⅱ", 3⟩,
    ⟨"INT300", "현장실습(인턴십)", 1⟩,
    ⟨"EC301", "전자회로", 3⟩,
    ⟨"EC302", "신호 및 시스템", 3⟩,
    ⟨"EE401", "디지털 통신", 3⟩,
    ⟨"SE301", "운영체제", 3⟩,
    ⟨"PH301", "고전역학", 3⟩,
    ⟨"PH302", "전자기학", 3⟩,
    ⟨"PH311", "양자역학Ⅰ", 3⟩,
    ⟨"PH401L", "고급물리실험Ⅰ", 2⟩,
    ⟨"CH301", "유기화학Ⅰ", 3⟩,
    ⟨"CH302", "물리화학Ⅰ", 3⟩
  ]

/-- The catalog that comes with the planner. -/
def catalog : Catalog := ⟨catalogEntries⟩

end Packaged
end DegreeAudit
