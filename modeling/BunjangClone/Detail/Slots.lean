import BunjangClone.Detail.Screen

/-!
# When the detail page is filled

The loop over the other products runs over as many slots as there are products, so it
ends exactly if the slots are enough. What it writes is described slot by slot; the
branches on the count then blank the slots that are left.
-/

namespace BunjangClone.Detail

variable {vc vc' : DetailViewController} {i j : Nat} {product : OtherProducts}
variable {products : List OtherProducts} {insertComma : String → String}
variable {result : DetailResult}

/-! ## The loop over the slots -/

/-- What the loop from `i` on makes of the label in slot `j`. -/
def filled (i : Nat) (products : List OtherProducts) (j : Nat) (label : ItemLabel) : ItemLabel :=
  if i ≤ j then
    match products[j - i]? with
    | some product => { label with text := priceText product.price }
    | none => label
  else label

/-- The slots from `i` on are filled with the products, and nothing else is changed that
later steps read. -/
structure Fills (i : Nat) (products : List OtherProducts) (vc vc' : DetailViewController) :
    Prop where
  labels : ∀ j, vc'.itemLabels[j]? = vc.itemLabels[j]?.map (filled i products j)
  length : vc'.itemLabels.length = vc.itemLabels.length
  images : vc'.itemImages.length = vc.itemImages.length
  reviewArray : vc'.reviewArray = vc.reviewArray

theorem filled_nil (i j : Nat) (label : ItemLabel) : filled i [] j label = label := by
  simp [filled]

theorem filled_cons (i j : Nat) (product : OtherProducts) (products : List OtherProducts)
    (label : ItemLabel) :
    filled (i + 1) products j (filled i [product] j label) =
      filled i (product :: products) j label := by
  by_cases hlater : i + 1 ≤ j
  · have hindex : j - i = (j - (i + 1)) + 1 := by omega
    have hle : i ≤ j := by omega
    simp only [filled, if_pos hlater, if_pos hle, hindex, List.getElem?_cons_succ,
      List.getElem?_nil]
  · by_cases hnow : i = j
    · subst hnow
      simp only [filled, if_neg hlater, if_pos (Nat.le_refl i), Nat.sub_self,
        List.getElem?_cons_zero]
    · have hbefore : ¬ i ≤ j := by omega
      unfold filled
      rw [if_neg hlater, if_neg hbefore, if_neg hbefore]

theorem fills_refl (i : Nat) (vc : DetailViewController) : Fills i [] vc vc := by
  refine ⟨fun j => ?_, rfl, rfl, rfl⟩
  rw [funext (filled_nil i j)]
  exact Option.map_id'.symm

theorem Fills.cons {next : DetailViewController} (h : Fills i [product] vc next)
    (h' : Fills (i + 1) products next vc') : Fills i (product :: products) vc vc' := by
  refine ⟨fun j => ?_, h'.length.trans h.length, h'.images.trans h.images,
    h'.reviewArray.trans h.reviewArray⟩
  rw [h'.labels, h.labels, Option.map_map]
  refine congrArg (Option.map · _) (funext fun label => ?_)
  exact filled_cons i j product products label

/-- Writing a text in slot `i` is what the loop does there. -/
theorem filled_singleton (i j : Nat) (product : OtherProducts) (label : ItemLabel) :
    filled i [product] j label =
      if i = j then { label with text := priceText product.price } else label := by
  rw [filled]
  by_cases hsame : i = j
  · subst hsame
    simp
  · rw [if_neg hsame]
    split
    · have hindex : j - i ≠ 0 := by omega
      simp [hindex]
    · rfl

/-- A text is written if the slot exists. -/
theorem fills_setItemText (product : OtherProducts) (hslot : i < vc.itemLabels.length) :
    ∃ vc', vc.setItemText i (priceText product.price) = some vc' ∧
      Fills i [product] vc vc' := by
  refine ⟨_, if_pos hslot, fun j => ?_, ?_, rfl, rfl⟩
  · show (vc.itemLabels.modify i _)[j]? = _
    rw [List.getElem?_modify, Option.map_eq_map]
    refine congrArg (Option.map · _) (funext fun label => ?_)
    exact (filled_singleton i j product label).symm
  · exact List.length_modify _ _ _

theorem fills_showProduct (product : OtherProducts)
    (hslots : vc.itemImages.length = vc.itemLabels.length)
    (hslot : i < vc.itemLabels.length) :
    ∃ vc', vc.showProduct i product = some vc' ∧ Fills i [product] vc vc' := by
  rw [DetailViewController.showProduct]
  cases hpicture : product.postImg with
  | none => exact fills_setItemText product hslot
  | some image =>
      have himage : vc.setItemImage i image =
          some { vc with itemImages := vc.itemImages.set i image } := if_pos (by omega)
      have hslot' : i < { vc with itemImages := vc.itemImages.set i image }.itemLabels.length :=
        hslot
      obtain ⟨vc', htext, hfills⟩ := fills_setItemText product hslot'
      refine ⟨vc', ?_, hfills.labels, hfills.length, ?_, hfills.reviewArray⟩
      · simp only [himage, Option.bind_some]
        exact htext
      · rw [hfills.images]
        exact List.length_set

theorem showProduct_eq_none (hslot : vc.itemLabels.length ≤ i) :
    vc.showProduct i product = none := by
  have htext : ∀ vc' : DetailViewController, vc'.itemLabels.length ≤ i →
      vc'.setItemText i (priceText product.price) = none := by
    intro vc' hnone
    exact if_neg (by omega)
  rw [DetailViewController.showProduct]
  cases hpicture : product.postImg with
  | none => exact htext vc hslot
  | some image =>
      refine Option.bind_eq_none_iff.mpr fun next hnext => htext next ?_
      simp only [DetailViewController.setItemImage, Option.ite_none_right_eq_some,
        Option.some.injEq] at hnext
      obtain ⟨_, rfl⟩ := hnext
      exact hslot

/-- The loop ends if there is a slot for each product. -/
theorem fills_showProducts (hslots : vc.itemImages.length = vc.itemLabels.length)
    (hfit : i + products.length ≤ vc.itemLabels.length) :
    ∃ vc', vc.showProducts i products = some vc' ∧ Fills i products vc vc' := by
  induction products generalizing vc i with
  | nil => exact ⟨vc, rfl, fills_refl i vc⟩
  | cons product products ih =>
      rw [List.length_cons] at hfit
      have hslot : i < vc.itemLabels.length := by omega
      obtain ⟨next, hnext, hfills⟩ := fills_showProduct product hslots hslot
      have hslots' : next.itemImages.length = next.itemLabels.length := by
        rw [hfills.images, hfills.length]
        exact hslots
      have hfit' : i + 1 + products.length ≤ next.itemLabels.length := by
        rw [hfills.length]
        omega
      obtain ⟨vc', hrest, hfills'⟩ := ih hslots' hfit'
      refine ⟨vc', ?_, hfills.cons hfills'⟩
      rw [DetailViewController.showProducts, hnext, Option.bind_some]
      exact hrest

/-- The first product without a slot is out of range. -/
theorem showProducts_eq_none (hslots : vc.itemImages.length = vc.itemLabels.length)
    (hi : i ≤ vc.itemLabels.length) (hmore : vc.itemLabels.length < i + products.length) :
    vc.showProducts i products = none := by
  induction products generalizing vc i with
  | nil =>
      rw [List.length_nil] at hmore
      omega
  | cons product products ih =>
      rw [List.length_cons] at hmore
      rw [DetailViewController.showProducts]
      by_cases hslot : i < vc.itemLabels.length
      · obtain ⟨next, hnext, hfills⟩ := fills_showProduct product hslots hslot
        rw [hnext, Option.bind_some]
        have hlength := hfills.length
        have himages := hfills.images
        apply ih
        · omega
        · omega
        · omega
      · rw [showProduct_eq_none (by omega)]
        rfl

/-! ## The texts -/

/-- What the later steps read is kept. -/
structure KeepsSlots (vc vc' : DetailViewController) : Prop where
  itemImages : vc'.itemImages = vc.itemImages
  itemLabels : vc'.itemLabels = vc.itemLabels
  reviewArray : vc'.reviewArray = vc.reviewArray

/-- There is a first image, if an empty one. -/
theorem components_getElem?_zero (text : String) : ∃ first, (components text)[0]? = some first := by
  cases hcomponents : components text with
  | nil => exact absurd hcomponents (List.splitOnP_ne_nil _ _)
  | cons first rest => exact ⟨first, rfl⟩

theorem tagText_eq_some (tags : String) : ∃ text, tagText tags = some text := by
  have hfold : ∀ (tags : List (List Char)) (tagLabel : String),
      ∃ text, (tags.foldlM (fun tagLabel tag => do
        let tag ← trim tag
        return tagLabel ++ "#" ++ String.ofList tag ++ " ") tagLabel) = some text := by
    intro tags
    induction tags with
    | nil => exact fun tagLabel => ⟨tagLabel, rfl⟩
    | cons tag tags ih =>
        intro tagLabel
        rw [List.foldlM_cons]
        exact ih _
  exact hfold _ _

theorem setUpInfo_keeps (insertComma : String → String) (vc : DetailViewController)
    (info : DetailInfo) : ∃ vc', vc.setUpInfo insertComma info = some vc' ∧ KeepsSlots vc vc' := by
  obtain ⟨firstImage, hfirst⟩ := components_getElem?_zero info.postImages
  rw [DetailViewController.setUpInfo]
  rw [hfirst]
  cases htags : info.tags with
  | none => exact ⟨_, rfl, rfl, rfl, rfl⟩
  | some tags =>
      obtain ⟨tagLabel, htext⟩ := tagText_eq_some tags
      simp only [htext]
      exact ⟨_, rfl, rfl, rfl, rfl⟩

/-- Only a list that is there and empty is out of range. -/
theorem setUpDetailInfo_keeps (insertComma : String → String) (vc : DetailViewController)
    {detailInfo : Option (List DetailInfo)} (hdetail : detailInfo ≠ some []) :
    ∃ vc', vc.setUpDetailInfo insertComma detailInfo = some vc' ∧ KeepsSlots vc vc' := by
  cases detailInfo with
  | none => exact ⟨vc, rfl, rfl, rfl, rfl⟩
  | some detailInfo =>
      cases detailInfo with
      | nil => exact absurd rfl hdetail
      | cons info rest => exact setUpInfo_keeps insertComma vc info

/-! ## The blank slots -/

/-- What slot `i` of the storyboard holds in the end. -/
def slot (products : List OtherProducts) (i : Nat) : ItemLabel :=
  match products[i]? with
  | some product => { text := priceText product.price }
  | none => { backgroundColor := .white }

theorem slot_text {i : Nat} (h : products[i]? = some product) :
    (slot products i).text = priceText product.price := by
  simp [slot, h]

theorem slot_backgroundColor (products : List OtherProducts) (i : Nat) :
    (slot products i).backgroundColor = .white ↔ products.length ≤ i := by
  rw [← List.getElem?_eq_none_iff]
  rw [slot]
  cases products[i]? with
  | none => simp
  | some product => simp

/-- The loop over the products, as it leaves the labels of the storyboard. -/
theorem Fills.itemLabels (h : Fills 0 products vc vc')
    (hlabels : vc.itemLabels = List.replicate slotCount {}) :
    vc'.itemLabels = [filled 0 products 0 {}, filled 0 products 1 {}, filled 0 products 2 {}] := by
  refine List.ext_getElem? fun j => ?_
  rw [h.labels, hlabels]
  match j with
  | 0 => rfl
  | 1 => rfl
  | 2 => rfl
  | j + 3 => rfl

/-- The page with slot `i` blank. -/
def blanked (vc : DetailViewController) (i : Nat) : DetailViewController :=
  { vc with
    itemLabels := vc.itemLabels.modify i fun label => { label with backgroundColor := .white } }

theorem blankItem_eq (hslot : i < vc.itemLabels.length) : vc.blankItem i = some (blanked vc i) :=
  if_pos hslot

theorem setUpOtherProducts_of_fits (hlabels : vc.itemLabels = List.replicate slotCount {})
    (himages : vc.itemImages.length = slotCount) (hfit : products.length ≤ slotCount) :
    ∃ vc', vc.setUpOtherProducts products = some vc' ∧
      vc'.itemLabels = (List.range slotCount).map (slot products) ∧
      vc'.reviewArray = vc.reviewArray := by
  have hlength : vc.itemLabels.length = slotCount := by
    rw [hlabels]
    exact List.length_replicate
  have hslots : vc.itemImages.length = vc.itemLabels.length := himages.trans hlength.symm
  have hfit' : 0 + products.length ≤ vc.itemLabels.length := by omega
  obtain ⟨next, hnext, hfills⟩ := fills_showProducts hslots hfit'
  have hnextLabels := hfills.itemLabels hlabels
  have hnextLength : next.itemLabels.length = slotCount := hfills.length.trans hlength
  rw [DetailViewController.setUpOtherProducts]
  rw [hnext, Option.bind_some]
  match products, hfit with
  | [], _ =>
      refine ⟨_, rfl, ?_, rfl⟩
      rw [hlabels]
      rfl
  | [_], _ =>
      have hone : 1 < next.itemLabels.length := hnextLength ▸ by decide
      have htwo : 2 < (blanked next 1).itemLabels.length := by
        show 2 < (next.itemLabels.modify 1 _).length
        rw [List.length_modify, hnextLength]
        decide
      refine ⟨blanked (blanked next 1) 2, ?_, ?_, hfills.reviewArray⟩
      · show (next.blankItem 1).bind (fun vc => vc.blankItem 2) = _
        rw [blankItem_eq hone, Option.bind_some]
        exact blankItem_eq htwo
      · show (next.itemLabels.modify 1 _).modify 2 _ = _
        rw [hnextLabels]
        rfl
  | [_, _], _ =>
      refine ⟨next.blankLast, rfl, ?_, hfills.reviewArray⟩
      rw [DetailViewController.blankLast]
      rw [hnextLabels]
      rfl
  | [_, _, _], _ => exact ⟨next, rfl, hnextLabels, hfills.reviewArray⟩

theorem setUpOtherProducts_of_more (hlabels : vc.itemLabels = List.replicate slotCount {})
    (himages : vc.itemImages.length = slotCount) (hmore : slotCount < products.length) :
    vc.setUpOtherProducts products = none := by
  have hlength : vc.itemLabels.length = slotCount := by
    rw [hlabels]
    exact List.length_replicate
  have hpositive : products.length > 0 := Nat.zero_lt_of_lt hmore
  rw [DetailViewController.setUpOtherProducts]
  rw [if_pos hpositive, showProducts_eq_none (himages.trans hlength.symm) (Nat.zero_le _)]
  · rfl
  · omega

/-! ## The whole page -/

/-- The slots show the prices, the slots that are left are blank, and the rows are the
reviews in order. -/
structure DisplaysDetail (result : DetailResult) (vc : DetailViewController) : Prop where
  prices : ∀ i product, i < slotCount → result.OtherProducts[i]? = some product →
    ∃ label, vc.itemLabels[i]? = some label ∧ label.text = priceText product.price
  blanks : ∀ i, i < slotCount → ∃ label, vc.itemLabels[i]? = some label ∧
    (label.backgroundColor = .white ↔ result.OtherProducts.length ≤ i)
  rows : vc.rows = result.StoreReview.map fun review =>
    ⟨review.reviewer, review.content, review.createAt⟩

theorem displaysDetail_of_slots
    (hlabels : vc.itemLabels = (List.range slotCount).map (slot result.OtherProducts))
    (hrows : vc.reviewArray = []) :
    DisplaysDetail result (vc.setUpStoreReview result.StoreReview) := by
  have hlabel : ∀ i, i < slotCount →
      vc.itemLabels[i]? = some (slot result.OtherProducts i) := by
    intro i hi
    rw [hlabels, List.getElem?_map, List.getElem?_range hi]
    rfl
  refine ⟨?_, ?_, ?_⟩
  · intro i product hi hproduct
    exact ⟨_, hlabel i hi, slot_text hproduct⟩
  · intro i hi
    exact ⟨_, hlabel i hi, slot_backgroundColor _ i⟩
  · show vc.reviewArray ++ _ = _
    rw [hrows]
    exact List.nil_append _

/-- The texts of the product leave the slots of the storyboard to the other products. -/
theorem setUp_reaches_slots (insertComma : String → String)
    (hdetail : result.detailInfo ≠ some []) :
    ∃ texts : DetailViewController, texts.itemLabels = List.replicate slotCount {} ∧
      texts.itemImages.length = slotCount ∧ texts.reviewArray = [] ∧
      DetailViewController.setUp insertComma {} result =
        (texts.setUpOtherProducts result.OtherProducts).bind fun shown =>
          some (shown.setUpStoreReview result.StoreReview) := by
  obtain ⟨texts, htexts, hkeeps⟩ := setUpDetailInfo_keeps insertComma {} hdetail
  refine ⟨{ texts with otherItemCount := toString result.OtherProducts.length },
    hkeeps.itemLabels, ?_, hkeeps.reviewArray, ?_⟩
  · show texts.itemImages.length = slotCount
    rw [hkeeps.itemImages]
    rfl
  · rw [DetailViewController.setUp]
    rw [htexts]
    rfl

theorem setUp_displays (insertComma : String → String) (hdetail : result.detailInfo ≠ some [])
    (hfit : result.OtherProducts.length ≤ slotCount) :
    ∃ vc, DetailViewController.setUp insertComma {} result = some vc ∧
      DisplaysDetail result vc := by
  obtain ⟨texts, hlabels, himages, hempty, hsetUp⟩ := setUp_reaches_slots insertComma hdetail
  obtain ⟨shown, hshown, hslots, harray⟩ := setUpOtherProducts_of_fits hlabels himages hfit
  refine ⟨shown.setUpStoreReview result.StoreReview, ?_,
    displaysDetail_of_slots hslots (harray.trans hempty)⟩
  rw [hsetUp, hshown, Option.bind_some]

theorem setUp_eq_none_of_nil (insertComma : String → String) (hnil : result.detailInfo = some []) :
    DetailViewController.setUp insertComma {} result = none := by
  rw [DetailViewController.setUp]
  rw [hnil]
  rfl

theorem setUp_eq_none_of_more (insertComma : String → String)
    (hmore : slotCount < result.OtherProducts.length) :
    DetailViewController.setUp insertComma {} result = none := by
  by_cases hdetail : result.detailInfo = some []
  · exact setUp_eq_none_of_nil insertComma hdetail
  · obtain ⟨texts, hlabels, himages, _, hsetUp⟩ := setUp_reaches_slots insertComma hdetail
    rw [hsetUp, setUpOtherProducts_of_more hlabels himages hmore]
    rfl

/-- A detail is displayed exactly if its list of products is not empty where it is there,
and the slots are enough for the seller's other products. -/
theorem detail_displayed_iff (insertComma : String → String) (result : DetailResult) :
    (∃ vc, DetailViewController.setUp insertComma {} result = some vc ∧
      DisplaysDetail result vc) ↔
      result.detailInfo ≠ some [] ∧ result.OtherProducts.length ≤ slotCount := by
  constructor
  · rintro ⟨vc, hsetUp, _⟩
    constructor
    · intro hdetail
      rw [setUp_eq_none_of_nil insertComma hdetail] at hsetUp
      cases hsetUp
    · apply Nat.le_of_not_lt
      intro hmore
      rw [setUp_eq_none_of_more insertComma hmore] at hsetUp
      cases hsetUp
  · rintro ⟨hdetail, hfit⟩
    exact setUp_displays insertComma hdetail hfit

/-- The fourth product has no slot. -/
theorem fourth_product_not_displayed :
    ¬ ∀ (insertComma : String → String) (result : DetailResult),
      ∃ vc, DetailViewController.setUp insertComma {} result = some vc ∧
        DisplaysDetail result vc := by
  intro h
  obtain ⟨vc, hsetUp, _⟩ := h id
    { OtherProducts := List.replicate 4 { price := 1000 }, StoreReview := [] }
  cases hsetUp

end BunjangClone.Detail
