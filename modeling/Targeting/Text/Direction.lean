import Targeting.Text.Mark

/-!
# Directions

Most scripts run from left to right, and some from right to left. Digits and signs take part in
texts of either direction.

## Main definitions

* `Text.Direction` — the parts that characters take in the direction of a text
* `Text.directionOf` — the part of a character
-/

namespace Targeting.Text

/-- The part that a character takes in the direction of a text. -/
inductive Direction where
  | leftToRight
  | rightToLeft
  | europeanDigit
  | arabicDigit
  /-- A mark goes with the character before it. -/
  | mark
  /-- Signs that are found in texts of both directions. -/
  | neutral
  deriving DecidableEq

/-- The direction that a letter stands for. -/
def Direction.ofChars? : List Char → Option Direction
  | ['L'] => some leftToRight
  | ['R'] => some rightToLeft
  | ['E'] => some europeanDigit
  | ['A'] => some arabicDigit
  | ['N'] => some neutral
  | _ => none

/-- The directions of characters, less those of marks and of letters that run from left to right.
Five marks, however, are such letters. -/
def directions : Runs Direction := .ofText Direction.ofChars?
  "0-2F=N 30-39=E 3A-40=N 5B-60=N 7B-A9=N AB-B1=N B2-B3=E B4=N B6-B8=N B9=E BB-BF=N D7=N F7=N
    2B9-2BA=N 2C2-2CF=N 2D2-2DF=N 2E5-2ED=N 2EF-2FF=N 374-375=N 37E=N 384-385=N 387=N 3F6=N 58A=N
    58D-58F=N 590=R 5BE=R 5C0=R 5C3=R 5C6=R 5C9-5FF=R 600-605=A 606-607=N 608=R 609-60A=N 60B=R
    60C=N 60D=R 60E-60F=N 61B-64A=R 660-669=A 66A=N 66B-66C=A 66D-66F=R 671-6D5=R 6DD=A 6DE=N
    6E5-6E6=R 6E9=N 6EE-6EF=R 6F0-6F9=E 6FA-710=R 712-72F=R 74B-7A5=R 7B1-7EA=R 7F4-7F5=R 7F6-7F9=N
    7FA-7FC=R 7FE-815=R 81A=R 824=R 828=R 82E-858=R 85C-88F=R 890-891=A 892-896=R 8A0-8C9=R 8E2=A
    9F2-9F3=N 9FB=N AF1=N BF3-BFA=N C78-C7E=N CBF=L CC6=L E3F=N F3A-F3D=N 1390-1399=N 1400=N 1680=N
    169B-169C=N 17DB=N 17F0-17F9=N 1800-180A=N 180E=N 1940=N 1944-1945=N 19DE-19FF=N 1FBD=N
    1FBF-1FC1=N 1FCD-1FCF=N 1FDD-1FDF=N 1FED-1FEF=N 1FFD-1FFE=N 2000-200D=N 200F=R 2010-206F=N
    2070=E 2074-2079=E 207A-207E=N 2080-2089=E 208A-208F=N 20A0-20CF=N 2100-2101=N 2103-2106=N
    2108-2109=N 2114=N 2116-2118=N 211E-2123=N 2125=N 2127=N 2129=N 212E=N 213A-213B=N 2140-2144=N
    214A-214D=N 2150-215F=N 2189-218B=N 2190-2335=N 237B-2394=N 2396-2429=N 2440-244A=N 2460-2487=N
    2488-249B=E 24EA-26AB=N 26AD-27FF=N 2900-2B73=N 2B76-2BFF=N 2CE5-2CEA=N 2CF9-2CFF=N 2E00-2E5D=N
    2E60-2E63=N 2E80-2E99=N 2E9B-2EF3=N 2F00-2FD5=N 2FF0-2FFB=N 3000-3004=N 3008-3020=N 3030=N
    3036-3037=N 303D-303F=N 309B-309C=N 30A0=N 30FB=N 31C0-31E5=N 321D-321E=N 3250-325F=N
    327C-327E=N 32B1-32BF=N 32CC-32CF=N 3377-337A=N 33DE-33DF=N 33FF=N 4DC0-4DFF=N A490-A4C6=N
    A60D-A60F=N A673=N A67E-A67F=N A700-A721=N A788=N A828-A82B=N A838-A839=N A874-A877=N
    AB6A-AB6B=N FB1D=R FB1F-FB28=R FB29=N FB2A-FBC2=R FBC3-FBD2=N FBD3-FD3D=R FD3E-FD4F=N
    FD50-FD8F=R FD90-FD91=N FD92-FDC7=R FDC8-FDEF=N FDF0-FDFC=R FDFD-FDFF=N FE10-FE19=N FE30-FE52=N
    FE54-FE66=N FE68-FE6B=N FE70-FEFE=R FEFF=N FF01-FF0F=N FF10-FF19=E FF1A-FF20=N FF3B-FF40=N
    FF5B-FF65=N FFE0-FFE6=N FFE8-FFEE=N FFF0-FFFF=N 10101=N 10140-1018C=N 10190-1019C=N 101A0=N
    102E1-102FB=E 10800-1091E=R 1091F=N 10920-10A00=R 10A04=R 10A07-10A0B=R 10A10-10A37=R
    10A3B-10A3E=R 10A40-10AE4=R 10AE7-10B38=R 10B39-10B3F=N 10B40-10D23=R 10D28-10D2F=R
    10D30-10D39=A 10D3A-10D3F=R 10D40-10D49=A 10D4A-10D68=R 10D6E=N 10D6F-10E5F=R 10E60-10E7E=A
    10E7F-10EAA=R 10EAD-10ECF=R 10ED0-10EDF=N 10F00-10F45=R 10F51-10F81=R 10F86-10FFF=R
    11052-11065=N 11660-1166C=N 11A07-11A08=L 11C3F=L 11FD5-11FF1=N 16FE2=N 1BCA0-1BCA3=N
    1CC00-1CCD5=N 1CCFA-1CCFC=N 1CD00-1CEB3=N 1CEBA-1CED0=N 1CED2-1CED4=N 1CEDD-1CEF0=N
    1D173-1D17A=N 1D1E9-1D1EA=N 1D200-1D241=N 1D245=N 1D300-1D356=N 1D6DB=N 1D715=N 1D74F=N 1D789=N
    1D7C3=N 1D7CE-1D7FF=E 1DB00-1DB1C=N 1E2FF=N 1E800-1E8CF=R 1E8D7-1E943=R 1E94B-1EEEF=R
    1EEF0-1EEF1=N 1EEF2-1EFFF=R 1F000-1F02B=N 1F030-1F093=N 1F0A0-1F0AE=N 1F0B1-1F0BF=N
    1F0C1-1F0CF=N 1F0D1-1F0F5=N 1F100-1F10A=E 1F10B-1F10F=N 1F12F=N 1F16A-1F16F=N 1F1AD-1F1AE=N
    1F260-1F265=N 1F300-1F6D9=N 1F6DC-1F6EC=N 1F6F0-1F6FC=N 1F700-1F7DB=N 1F7E0-1F7EB=N
    1F7F0-1F80B=N 1F810-1F847=N 1F850-1F859=N 1F860-1F887=N 1F890-1F8AD=N 1F8B0-1F8BB=N
    1F8C0-1F8C1=N 1F8D0-1F8D8=N 1F900-1FA57=N 1FA60-1FA6D=N 1FA70-1FA7C=N 1FA80-1FAC6=N 1FAC8=N
    1FACC-1FADD=N 1FADF-1FAEB=N 1FAEF-1FAFA=N 1FB00-1FB92=N 1FB94-1FBEF=N 1FBF0-1FBF9=E 1FBFA=N
    1FFFE-1FFFF=N 2FFFE-2FFFF=N 3FFFE-3FFFF=N 4FFFE-4FFFF=N 5FFFE-5FFFF=N 6FFFE-6FFFF=N
    7FFFE-7FFFF=N 8FFFE-8FFFF=N 9FFFE-9FFFF=N AFFFE-AFFFF=N BFFFE-BFFFF=N CFFFE-CFFFF=N
    DFFFE-E00FF=N E01F0-E0FFF=N EFFFE-EFFFF=N FFFFE-FFFFF=N 10FFFE-10FFFF=N"

/-- The part of a character in the direction of a text. -/
def directionOf (c : Char) : Direction :=
  match directions.get? c.toNat with
  | some direction => direction
  | none => if isNonspacing c then .mark else .leftToRight

end Targeting.Text
