import QtAppBase.Infra.AppLog
import QtAppBase.Infra.UpdateChecker
import QtAppBase.Qt.Json

/-!
# What a release offers

`UpdateChecker` reads the latest release, as GitHub describes it, with one guard
after the other. What passes all of them is a release that offers the installer of
this application, with a digest, in a version that can be compared.
-/

namespace QtAppBase.Infra

open Library Qt

/-- What the build sets: `APP_VERSION` and `APP_INSTALLER_ASSET`. -/
structure Application where
  version : QString
  installerAsset : QString

/-- What a release offers. -/
structure Offer where
  version : QString
  url : QString
  sha256 : QString
  deriving DecidableEq, Repr

/-- Case folding as far as `sha256:` goes: of the characters beyond ASCII only the long s
folds to one of its letters. -/
def foldCase (c : Char) : Char := if c = 'ſ' then 's' else c.toLower

/-- The tag of a release, without the letter in front. -/
def withoutV (tag : QString) : QString :=
  match tag.toList with
  | 'v' :: version => String.ofList version
  | _ => tag

/-- The loop over the assets: the first one with the name, or an empty object. -/
def installerAssetOf (app : Application) (assets : List Json) : JsonObject :=
  ((assets.map Json.toObject).find? fun asset =>
    (Json.value asset "name").toString = app.installerAsset).getD []

section Reading

variable (urlUsable : QString → Bool) (app : Application)

/-- The guards of `checkNow` on a release: the text of the one that fails, or the offer, with
the answer of `isNewerVersion`. Whether a URL is valid and not empty is up to `QUrl`. -/
def readRelease (release : JsonObject) : Except QString (Offer × Bool) :=
  if (Json.value release "prerelease").toBool then .error "update check ignored a prerelease"
  else
    let remoteVersion := withoutV (Json.value release "tag_name").toString
    if remoteVersion = "" then .error "update check response has no tag_name"
    else
      let installerAsset := installerAssetOf app (Json.value release "assets").toArray
      if installerAsset.isEmpty then
        .error ("update check found no installer asset named " ++ app.installerAsset)
      else
        let downloadUrl := (Json.value installerAsset "browser_download_url").toString
        let digest := (Json.value installerAsset "digest").toString
        if (digest.toList.take 7).map foldCase ≠ "sha256:".toList then
          .error "update check installer asset has no SHA-256 digest"
        else
          let digest := String.ofList (digest.toList.drop 7)
          if !urlUsable downloadUrl || digest = "" then
            .error "update check installer asset metadata is incomplete"
          else
            let compared := isNewerVersion remoteVersion app.version
            if !compared.valid then
              .error ("update check could not compare versions local=" ++ app.version ++
                " remote=" ++ remoteVersion)
            else .ok (⟨remoteVersion, downloadUrl, digest⟩, compared.newer)

/-- A release that is to be installed, said without the order in which it is checked. -/
structure Advertises (release : JsonObject) (offer : Offer) : Prop where
  /-- It is not a prerelease. -/
  final : (Json.value release "prerelease").toBool = false
  /-- Its tag is the version, with or without a letter. -/
  tag : offer.version = withoutV (Json.value release "tag_name").toString
  /-- The first of its assets with the name has the URL and the digest. -/
  asset : ∃ asset letters,
    ((Json.value release "assets").toArray.map Json.toObject).find?
      (fun asset => (Json.value asset "name").toString = app.installerAsset) = some asset ∧
    offer.url = (Json.value asset "browser_download_url").toString ∧
    (Json.value asset "digest").toString.toList = letters ++ offer.sha256.toList ∧
    letters.map foldCase = "sha256:".toList
  usable : urlUsable offer.url = true
  digest_ne : offer.sha256 ≠ ""
  /-- Its version is newer than that of the application. -/
  newer : (isNewerVersion offer.version app.version).newer = true

variable {urlUsable app}

/-- A version that is newer could be compared. -/
theorem valid_of_newer {remote installed : QString}
    (h : (isNewerVersion remote installed).newer = true) :
    (isNewerVersion remote installed).valid = true := by
  unfold isNewerVersion at h ⊢
  split at h
  · rfl
  · cases h

/-- It is not empty. -/
theorem ne_empty_of_newer {remote installed : QString}
    (h : (isNewerVersion remote installed).newer = true) : remote ≠ "" := by
  rintro rfl
  have hnone : parseVersion "" = none := rfl
  rw [isNewerVersion, hnone] at h
  cases h

/-- **An update is offered exactly when one is advertised.** -/
theorem readRelease_eq_ok_iff {release : JsonObject} {offer : Offer} :
    readRelease urlUsable app release = .ok (offer, true) ↔
      Advertises urlUsable app release offer := by
  constructor
  · intro h
    unfold readRelease at h
    dsimp only at h
    split_ifs at h with hprerelease htag hasset hdigest hcomplete hvalid
    obtain ⟨rfl, hnewer⟩ := Prod.mk.inj (Except.ok.inj h)
    cases hfound : ((Json.value release "assets").toArray.map Json.toObject).find? fun asset =>
        (Json.value asset "name").toString = app.installerAsset with
    | none =>
      refine absurd ?_ hasset
      rw [installerAssetOf, hfound]
      rfl
    | some asset =>
      have hthis : installerAssetOf app (Json.value release "assets").toArray = asset := by
        rw [installerAssetOf, hfound]
        rfl
      rw [hthis] at hdigest hcomplete
      simp only [Bool.or_eq_true, Bool.not_eq_true', decide_eq_true_eq, not_or,
        Bool.not_eq_false] at hcomplete
      rw [hthis]
      refine ⟨by simpa using hprerelease, rfl, ⟨asset, _, hfound, rfl, ?_, not_not.mp hdigest⟩,
        hcomplete.1, hcomplete.2, hnewer⟩
      rw [String.toList_ofList, List.take_append_drop]
  · intro h
    obtain ⟨asset, letters, hfound, hurl, hdigest, hletters⟩ := h.asset
    have hthis : installerAssetOf app (Json.value release "assets").toArray = asset := by
      rw [installerAssetOf, hfound]
      rfl
    have hlength : letters.length = 7 := by
      rw [← List.length_map (f := foldCase), hletters]
      rfl
    have htake : (Json.value asset "digest").toString.toList.take 7 = letters := by
      rw [hdigest, List.take_left' hlength]
    have hdrop : (Json.value asset "digest").toString.toList.drop 7 = offer.sha256.toList := by
      rw [hdigest, List.drop_left' hlength]
    -- an asset with a digest is not empty
    have hmembers : asset.isEmpty = false := by
      cases asset with
      | nil =>
        rw [show (Json.value [] "digest").toString.toList = [] from rfl] at htake
        rw [← htake] at hlength
        cases hlength
      | cons member members => rfl
    unfold readRelease
    dsimp only
    rw [if_neg (by rw [h.final]; decide), ← h.tag, if_neg (ne_empty_of_newer h.newer), hthis,
      if_neg (by rw [hmembers]; decide), htake, if_neg (not_not.mpr hletters), hdrop,
      String.ofList_toList, ← hurl, if_neg (by simp [h.usable, h.digest_ne]),
      if_neg (by simp [valid_of_newer h.newer]), h.newer]

end Reading

end QtAppBase.Infra
