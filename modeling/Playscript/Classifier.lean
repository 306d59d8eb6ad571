import Playscript.Clue
import Playscript.Naming
import Playscript.Selectors
import Playscript.Step

/-!
# Understanding a step

A sentence becomes a step by two ordered lists of rules. The selector
rules look for the vocabulary of user interfaces, in any case and at any
place, and give the element its name; a sentence they do not recognise is
named after its nouns. The action rules look for verbs and phrases of
expectation as whole words of the lower-cased sentence; a sentence they
do not recognise has the action `unknown`.
-/

namespace Playscript

/-- **The selector rules**, to be matched without regard to case. -/
def selectorRules : List (Rule String) := [
  ⟨[.phrase ["username", "user name", "email"]], "userNameField"⟩,
  ⟨[.phrase ["password"]], "passwordField"⟩,
  ⟨[.phrase ["login", "submit"]], "loginButton"⟩,
  ⟨[.inOrder ["dropdown"] ["country"], .inOrder ["country"] ["dropdown"]], "countryDropdown"⟩,
  ⟨[.phrase ["checkbox"]], "termsCheckbox"⟩,
  ⟨[.phrase ["link"]], "link"⟩,
  ⟨[.phrase ["title"]], "pageTitle"⟩,
  ⟨[.phrase ["url"]], "currentUrl"⟩,
  ⟨[.phrase ["welcome message"]], "welcomeBanner"⟩,
  ⟨[.phrase ["profile picture"]], "avatar"⟩,
  ⟨[.phrase ["search"]], "searchBox"⟩,
  ⟨[.phrase ["logout"]], "logoutButton"⟩,
  ⟨[.phrase ["add to cart", "cart"]], "addToCartButton"⟩,
  ⟨[.phrase ["checkout"]], "checkoutButton"⟩,
  ⟨[.phrase ["menu", "hamburger"]], "menuToggle"⟩,
  ⟨[.phrase ["language"]], "languageSelector"⟩,
  ⟨[.phrase ["payment method"]], "paymentMethodDropdown"⟩,
  ⟨[.phrase ["card number"]], "cardNumberField"⟩,
  ⟨[.phrase ["cvv"]], "cvvField"⟩,
  ⟨[.phrase ["expiry date"]], "expiryDateField"⟩,
  ⟨[.phrase ["mobile number", "phone"]], "mobileNumberField"⟩,
  ⟨[.phrase ["otp"]], "otpField"⟩,
  ⟨[.phrase ["account number", "iban"]], "accountNumberField"⟩,
  ⟨[.phrase ["transaction id", "txn id"]], "transactionIdField"⟩,
  ⟨[.phrase ["policy number"]], "policyNumberField"⟩,
  ⟨[.phrase ["claim id"]], "claimIdField"⟩,
  ⟨[.phrase ["medical record", "mrn"]], "medicalRecordNumber"⟩,
  ⟨[.phrase ["patient name"]], "patientNameField"⟩,
  ⟨[.phrase ["doctor name"]], "doctorNameField"⟩,
  ⟨[.phrase ["appointment date"]], "appointmentDatePicker"⟩,
  ⟨[.phrase ["shipping address"]], "shippingAddressField"⟩]

/-- The forms of a word: its stem with each of the endings. -/
def inflected (stem : String) (endings : List String) : List String :=
  endings.map (stem ++ ·)

/-- The endings of a regular verb whose stem is a word. -/
def regular : List String := ["", "s", "ed", "ing"]

/-- **The action rules**, to be matched on whole words. A verb is listed
with its forms, so that "has entered" says what "enters" says. -/
def actionRules : List (Rule Action) := [
  ⟨[.phrase (inflected "enter" regular),
    .phrase (inflected "typ" ["e", "es", "ed", "ing"]),
    .phrase (inflected "provid" ["e", "es", "ed", "ing"]),
    .phrase (inflected "input" ["", "s", "ted", "ting"]),
    .phrase (inflected "fill" regular),
    .phrase (inflected "set" ["", "s", "ting"])], .setValue⟩,
  ⟨[.phrase (inflected "click" regular),
    .phrase (inflected "press" ["", "es", "ed", "ing"]),
    .phrase (inflected "tap" ["", "s", "ped", "ping"])], .click⟩,
  ⟨[.phrase (inflected "hover" regular)], .hover⟩,
  ⟨[.phrase (inflected "upload" regular)], .uploadFile⟩,
  ⟨[.phrase (inflected "select" regular),
    .phrase (inflected "choos" ["e", "es", "ing"]),
    .phrase ["chose", "chosen"]], .selectDropdown⟩,
  ⟨[.phrase ((inflected "scroll" regular).map (· ++ " to"))], .scrollTo⟩,
  ⟨[.phrase (inflected "clear" regular)], .clearText⟩,
  ⟨[.inOrder ((inflected "wait" regular).map (· ++ " for")) ["visible"]], .waitForVisible⟩,
  ⟨[.phrase ["should see", "sees"]], .assertVisible⟩,
  ⟨[.phrase ["should have text"]], .assertText⟩,
  ⟨[.phrase ["should be enabled"]], .assertEnabled⟩,
  ⟨[.phrase ["should be disabled"]], .assertDisabled⟩,
  ⟨[.phrase ["title should be"]], .assertTitle⟩,
  ⟨[.phrase ["url should contain"]], .assertUrlContains⟩]

/-- **What it takes to understand steps**: the selector tables of the
project and a way to find nouns. -/
structure Classifier where
  /-- What is known about selector names. -/
  selectors : Selectors
  /-- How nouns are found. -/
  nouns : NounFinder

namespace Classifier

/-- The name of the element a sentence speaks of. -/
def selectorName (classifier : Classifier) (sentence : String) : String :=
  (Rule.first? Edge.anywhere selectorRules (sentence.toList.map foldAscii)).getD
    (Naming.shortName classifier.nouns sentence)

/-- What a sentence says is done. -/
def action (sentence : String) : Action :=
  (Rule.first? Edge.ofWord actionRules (Text.lowercase sentence).toList).getD .unknown

/-- The locator of an element that has a name and no alias. -/
def testIdLocator (name : String) : String :=
  "[data-testid=\"" ++ name ++ "\"]"

/-- **Understands a sentence as a step.** The fallbacks are those of the
selector name, each one once and without the primary locator. -/
def classify (classifier : Classifier) (sentence : String) : Step :=
  let name := classifier.selectorName sentence
  let action := action sentence
  let selector := (classifier.selectors.alias? name).getD (testIdLocator name)
  { action
    selectorName := name
    selector
    fallbacks := ((classifier.selectors.fallbacksOf name).filter (· ≠ selector)).eraseDups
    argument :=
      if action.needsArgument then (Naming.quoted? sentence).filter (· ≠ "") else none }

theorem action_classify (classifier : Classifier) (sentence : String) :
    (classifier.classify sentence).action = action sentence := by
  rw [classify]

theorem argument_classify (classifier : Classifier) (sentence : String) :
    (classifier.classify sentence).argument
      = if (action sentence).needsArgument then (Naming.quoted? sentence).filter (· ≠ "")
        else none := by
  rw [classify]

end Classifier

end Playscript
