import FlexForm.TimeZone.Rule

/-! # The zones of the world

The zones of the time zone database by name, with the rule that the clocks of each follow today.

* `TimeZone.groups`: the zones that share a rule.
* `TimeZone.rule?`, `TimeZone.isName`: the rule of a zone, and whether there is one.
* `TimeZone.now?`: a moment on the clocks of a zone.
-/

namespace FlexForm.TimeZone
set_option autoImplicit false

/-- Clocks that are never changed, by minutes ahead of universal time. -/
def fixed (minutes : Int) : Rule := { offset := minutes * 60 }

/-- Clocks that are changed twice a year, by minutes ahead of universal time. -/
def changed (winter summer : Int) (start stop : Change) : Rule :=
  { offset := winter * 60, summer := some { offset := summer * 60, start, stop } }

def groups : List (Rule × List String) := [
  (fixed (-720), [
    "Etc/GMT+12"]),
  (fixed (-660), [
    "Etc/GMT+11", "Pacific/Midway", "Pacific/Niue", "Pacific/Pago_Pago", "Pacific/Samoa"]),
  (fixed (-600), [
    "Etc/GMT+10", "HST", "Pacific/Honolulu", "Pacific/Johnston", "Pacific/Rarotonga",
    "Pacific/Tahiti"]),
  (changed (-600) (-540) ⟨3, 2, 0, 7200⟩ ⟨11, 1, 0, 7200⟩, [
    "America/Adak", "America/Atka"]),
  (fixed (-570), [
    "Pacific/Marquesas"]),
  (fixed (-540), [
    "Etc/GMT+9", "Pacific/Gambier"]),
  (changed (-540) (-480) ⟨3, 2, 0, 7200⟩ ⟨11, 1, 0, 7200⟩, [
    "America/Anchorage", "America/Juneau", "America/Metlakatla", "America/Nome", "America/Sitka",
    "America/Yakutat"]),
  (fixed (-480), [
    "Etc/GMT+8", "Pacific/Pitcairn"]),
  (changed (-480) (-420) ⟨3, 2, 0, 7200⟩ ⟨11, 1, 0, 7200⟩, [
    "America/Ensenada", "America/Los_Angeles", "America/Santa_Isabel", "America/Tijuana",
    "America/Vancouver", "PST8PDT"]),
  (fixed (-420), [
    "America/Creston", "America/Dawson", "America/Dawson_Creek", "America/Fort_Nelson",
    "America/Hermosillo", "America/Mazatlan", "America/Phoenix", "America/Whitehorse",
    "Etc/GMT+7", "MST"]),
  (changed (-420) (-360) ⟨3, 2, 0, 7200⟩ ⟨11, 1, 0, 7200⟩, [
    "America/Boise", "America/Cambridge_Bay", "America/Ciudad_Juarez", "America/Denver",
    "America/Edmonton", "America/Inuvik", "America/Shiprock", "America/Yellowknife", "MST7MDT"]),
  (fixed (-360), [
    "America/Bahia_Banderas", "America/Belize", "America/Chihuahua", "America/Costa_Rica",
    "America/El_Salvador", "America/Guatemala", "America/Managua", "America/Merida",
    "America/Mexico_City", "America/Monterrey", "America/Regina", "America/Swift_Current",
    "America/Tegucigalpa", "Etc/GMT+6", "Pacific/Galapagos"]),
  (changed (-360) (-300) ⟨3, 2, 0, 7200⟩ ⟨11, 1, 0, 7200⟩, [
    "America/Chicago", "America/Indiana/Knox", "America/Indiana/Tell_City", "America/Matamoros",
    "America/Menominee", "America/North_Dakota/Beulah", "America/North_Dakota/Center",
    "America/North_Dakota/New_Salem", "America/Ojinaga", "America/Rainy_River",
    "America/Rankin_Inlet", "America/Resolute", "America/Winnipeg", "CST6CDT"]),
  (changed (-360) (-300) ⟨9, 1, 6, 79200⟩ ⟨4, 1, 6, 79200⟩, [
    "Pacific/Easter"]),
  (fixed (-300), [
    "America/Atikokan", "America/Bogota", "America/Cancun", "America/Cayman",
    "America/Coral_Harbour", "America/Eirunepe", "America/Guayaquil", "America/Jamaica",
    "America/Lima", "America/Panama", "America/Porto_Acre", "America/Rio_Branco", "EST",
    "Etc/GMT+5"]),
  (changed (-300) (-240) ⟨3, 2, 0, 0⟩ ⟨11, 1, 0, 3600⟩, [
    "America/Havana"]),
  (changed (-300) (-240) ⟨3, 2, 0, 7200⟩ ⟨11, 1, 0, 7200⟩, [
    "America/Detroit", "America/Grand_Turk", "America/Indiana/Indianapolis",
    "America/Indiana/Marengo", "America/Indiana/Petersburg", "America/Indiana/Vevay",
    "America/Indiana/Vincennes", "America/Indiana/Winamac", "America/Iqaluit",
    "America/Kentucky/Louisville", "America/Kentucky/Monticello", "America/Montreal",
    "America/Nassau", "America/New_York", "America/Nipigon", "America/Pangnirtung",
    "America/Port-au-Prince", "America/Thunder_Bay", "America/Toronto", "EST5EDT"]),
  (fixed (-240), [
    "America/Anguilla", "America/Antigua", "America/Aruba", "America/Barbados",
    "America/Blanc-Sablon", "America/Boa_Vista", "America/Campo_Grande", "America/Caracas",
    "America/Cuiaba", "America/Curacao", "America/Dominica", "America/Grenada",
    "America/Guadeloupe", "America/Guyana", "America/Kralendijk", "America/La_Paz",
    "America/Lower_Princes", "America/Manaus", "America/Marigot", "America/Martinique",
    "America/Montserrat", "America/Port_of_Spain", "America/Porto_Velho", "America/Puerto_Rico",
    "America/Santo_Domingo", "America/St_Barthelemy", "America/St_Kitts", "America/St_Lucia",
    "America/St_Thomas", "America/St_Vincent", "America/Tortola", "America/Virgin", "Etc/GMT+4"]),
  (changed (-240) (-180) ⟨3, 2, 0, 7200⟩ ⟨11, 1, 0, 7200⟩, [
    "America/Glace_Bay", "America/Goose_Bay", "America/Halifax", "America/Moncton",
    "America/Thule", "Atlantic/Bermuda"]),
  (changed (-240) (-180) ⟨9, 1, 6, 86400⟩ ⟨4, 1, 6, 86400⟩, [
    "America/Santiago"]),
  (changed (-210) (-150) ⟨3, 2, 0, 7200⟩ ⟨11, 1, 0, 7200⟩, [
    "America/St_Johns"]),
  (fixed (-180), [
    "America/Araguaina", "America/Argentina/Buenos_Aires", "America/Argentina/Catamarca",
    "America/Argentina/Cordoba", "America/Argentina/Jujuy", "America/Argentina/La_Rioja",
    "America/Argentina/Mendoza", "America/Argentina/Rio_Gallegos", "America/Argentina/Salta",
    "America/Argentina/San_Juan", "America/Argentina/San_Luis", "America/Argentina/Tucuman",
    "America/Argentina/Ushuaia", "America/Asuncion", "America/Bahia", "America/Belem",
    "America/Cayenne", "America/Coyhaique", "America/Fortaleza", "America/Maceio",
    "America/Montevideo", "America/Paramaribo", "America/Punta_Arenas", "America/Recife",
    "America/Santarem", "America/Sao_Paulo", "Antarctica/Palmer", "Antarctica/Rothera",
    "Atlantic/Stanley", "Etc/GMT+3"]),
  (changed (-180) (-120) ⟨3, 2, 0, 7200⟩ ⟨11, 1, 0, 7200⟩, [
    "America/Miquelon"]),
  (fixed (-120), [
    "America/Noronha", "Atlantic/South_Georgia", "Etc/GMT+2"]),
  (changed (-120) (-60) ⟨3, 5, 0, -3600⟩ ⟨10, 5, 0, 0⟩, [
    "America/Nuuk", "America/Scoresbysund"]),
  (fixed (-60), [
    "Atlantic/Cape_Verde", "Etc/GMT+1"]),
  (changed (-60) 0 ⟨3, 5, 0, 0⟩ ⟨10, 5, 0, 3600⟩, [
    "Atlantic/Azores"]),
  (fixed 0, [
    "Africa/Abidjan", "Africa/Accra", "Africa/Bamako", "Africa/Banjul", "Africa/Bissau",
    "Africa/Conakry", "Africa/Dakar", "Africa/Freetown", "Africa/Lome", "Africa/Monrovia",
    "Africa/Nouakchott", "Africa/Ouagadougou", "Africa/Sao_Tome", "Africa/Timbuktu",
    "America/Danmarkshavn", "Atlantic/Reykjavik", "Atlantic/St_Helena", "Etc/GMT", "Etc/GMT+0",
    "Etc/GMT-0", "Etc/GMT0", "Etc/Greenwich", "Etc/UCT", "Etc/UTC", "Etc/Universal", "Etc/Zulu",
    "Factory", "GMT", "UTC"]),
  (changed 0 60 ⟨3, 5, 0, 3600⟩ ⟨10, 5, 0, 7200⟩, [
    "Atlantic/Canary", "Atlantic/Faroe", "Atlantic/Madeira", "Europe/Belfast", "Europe/Dublin",
    "Europe/Guernsey", "Europe/Isle_of_Man", "Europe/Jersey", "Europe/Lisbon", "Europe/London",
    "WET"]),
  (changed 0 120 ⟨3, 5, 0, 3600⟩ ⟨10, 5, 0, 10800⟩, [
    "Antarctica/Troll"]),
  (fixed 60, [
    "Africa/Algiers", "Africa/Bangui", "Africa/Brazzaville", "Africa/Casablanca", "Africa/Douala",
    "Africa/El_Aaiun", "Africa/Kinshasa", "Africa/Lagos", "Africa/Libreville", "Africa/Luanda",
    "Africa/Malabo", "Africa/Ndjamena", "Africa/Niamey", "Africa/Porto-Novo", "Africa/Tunis",
    "Etc/GMT-1"]),
  (changed 60 120 ⟨3, 5, 0, 7200⟩ ⟨10, 5, 0, 10800⟩, [
    "Africa/Ceuta", "Arctic/Longyearbyen", "Atlantic/Jan_Mayen", "CET", "Europe/Amsterdam",
    "Europe/Andorra", "Europe/Belgrade", "Europe/Berlin", "Europe/Bratislava", "Europe/Brussels",
    "Europe/Budapest", "Europe/Busingen", "Europe/Copenhagen", "Europe/Gibraltar",
    "Europe/Ljubljana", "Europe/Luxembourg", "Europe/Madrid", "Europe/Malta", "Europe/Monaco",
    "Europe/Oslo", "Europe/Paris", "Europe/Podgorica", "Europe/Prague", "Europe/Rome",
    "Europe/San_Marino", "Europe/Sarajevo", "Europe/Skopje", "Europe/Stockholm", "Europe/Tirane",
    "Europe/Vaduz", "Europe/Vatican", "Europe/Vienna", "Europe/Warsaw", "Europe/Zagreb",
    "Europe/Zurich", "MET"]),
  (fixed 120, [
    "Africa/Blantyre", "Africa/Bujumbura", "Africa/Gaborone", "Africa/Harare",
    "Africa/Johannesburg", "Africa/Juba", "Africa/Khartoum", "Africa/Kigali", "Africa/Lubumbashi",
    "Africa/Lusaka", "Africa/Maputo", "Africa/Maseru", "Africa/Mbabane", "Africa/Tripoli",
    "Africa/Windhoek", "Etc/GMT-2", "Europe/Kaliningrad"]),
  (changed 120 180 ⟨3, 4, 4, 93600⟩ ⟨10, 5, 0, 7200⟩, [
    "Asia/Jerusalem", "Asia/Tel_Aviv"]),
  (changed 120 180 ⟨3, 4, 4, 180000⟩ ⟨10, 4, 4, 180000⟩, [
    "Asia/Gaza", "Asia/Hebron"]),
  (changed 120 180 ⟨3, 5, 0, 0⟩ ⟨10, 5, 0, 0⟩, [
    "Asia/Beirut"]),
  (changed 120 180 ⟨3, 5, 0, 10800⟩ ⟨10, 5, 0, 14400⟩, [
    "Asia/Famagusta", "Asia/Nicosia", "EET", "Europe/Athens", "Europe/Bucharest",
    "Europe/Chisinau", "Europe/Helsinki", "Europe/Kyiv", "Europe/Mariehamn", "Europe/Nicosia",
    "Europe/Riga", "Europe/Sofia", "Europe/Tallinn", "Europe/Tiraspol", "Europe/Vilnius"]),
  (changed 120 180 ⟨4, 5, 5, 0⟩ ⟨10, 5, 4, 86400⟩, [
    "Africa/Cairo"]),
  (fixed 180, [
    "Africa/Addis_Ababa", "Africa/Asmara", "Africa/Dar_es_Salaam", "Africa/Djibouti",
    "Africa/Kampala", "Africa/Mogadishu", "Africa/Nairobi", "Antarctica/Syowa", "Asia/Aden",
    "Asia/Amman", "Asia/Baghdad", "Asia/Bahrain", "Asia/Damascus", "Asia/Istanbul", "Asia/Kuwait",
    "Asia/Qatar", "Asia/Riyadh", "Etc/GMT-3", "Europe/Istanbul", "Europe/Kirov", "Europe/Minsk",
    "Europe/Moscow", "Europe/Simferopol", "Europe/Volgograd", "Indian/Antananarivo",
    "Indian/Comoro", "Indian/Mayotte"]),
  (fixed 210, [
    "Asia/Tehran"]),
  (fixed 240, [
    "Asia/Baku", "Asia/Dubai", "Asia/Muscat", "Asia/Tbilisi", "Asia/Yerevan", "Etc/GMT-4",
    "Europe/Astrakhan", "Europe/Samara", "Europe/Saratov", "Europe/Ulyanovsk", "Indian/Mahe",
    "Indian/Mauritius", "Indian/Reunion"]),
  (fixed 270, [
    "Asia/Kabul"]),
  (fixed 300, [
    "Antarctica/Mawson", "Antarctica/Vostok", "Asia/Almaty", "Asia/Aqtau", "Asia/Aqtobe",
    "Asia/Ashgabat", "Asia/Atyrau", "Asia/Dushanbe", "Asia/Karachi", "Asia/Oral", "Asia/Qostanay",
    "Asia/Qyzylorda", "Asia/Samarkand", "Asia/Tashkent", "Asia/Yekaterinburg", "Etc/GMT-5",
    "Indian/Kerguelen", "Indian/Maldives"]),
  (fixed 330, [
    "Asia/Colombo", "Asia/Kolkata"]),
  (fixed 345, [
    "Asia/Kathmandu"]),
  (fixed 360, [
    "Asia/Bishkek", "Asia/Dhaka", "Asia/Kashgar", "Asia/Omsk", "Asia/Thimphu", "Asia/Urumqi",
    "Etc/GMT-6", "Indian/Chagos"]),
  (fixed 390, [
    "Asia/Yangon", "Indian/Cocos"]),
  (fixed 420, [
    "Antarctica/Davis", "Asia/Bangkok", "Asia/Barnaul", "Asia/Ho_Chi_Minh", "Asia/Hovd",
    "Asia/Jakarta", "Asia/Krasnoyarsk", "Asia/Novokuznetsk", "Asia/Novosibirsk",
    "Asia/Phnom_Penh", "Asia/Pontianak", "Asia/Tomsk", "Asia/Vientiane", "Etc/GMT-7",
    "Indian/Christmas"]),
  (fixed 480, [
    "Antarctica/Casey", "Asia/Brunei", "Asia/Choibalsan", "Asia/Chongqing", "Asia/Harbin",
    "Asia/Hong_Kong", "Asia/Irkutsk", "Asia/Kuala_Lumpur", "Asia/Kuching", "Asia/Macau",
    "Asia/Makassar", "Asia/Manila", "Asia/Shanghai", "Asia/Singapore", "Asia/Taipei",
    "Asia/Ulaanbaatar", "Australia/Perth", "Etc/GMT-8"]),
  (fixed 525, [
    "Australia/Eucla"]),
  (fixed 540, [
    "Asia/Chita", "Asia/Dili", "Asia/Jayapura", "Asia/Khandyga", "Asia/Pyongyang", "Asia/Seoul",
    "Asia/Tokyo", "Asia/Yakutsk", "Etc/GMT-9", "Pacific/Palau"]),
  (fixed 570, [
    "Australia/Darwin"]),
  (changed 570 630 ⟨10, 1, 0, 7200⟩ ⟨4, 1, 0, 10800⟩, [
    "Australia/Adelaide", "Australia/Broken_Hill", "Australia/Yancowinna"]),
  (fixed 600, [
    "Antarctica/DumontDUrville", "Asia/Ust-Nera", "Asia/Vladivostok", "Australia/Brisbane",
    "Australia/Lindeman", "Etc/GMT-10", "Pacific/Chuuk", "Pacific/Guam", "Pacific/Port_Moresby",
    "Pacific/Saipan", "Pacific/Yap"]),
  (changed 600 660 ⟨10, 1, 0, 7200⟩ ⟨4, 1, 0, 10800⟩, [
    "Antarctica/Macquarie", "Australia/Canberra", "Australia/Currie", "Australia/Hobart",
    "Australia/Melbourne", "Australia/Sydney"]),
  (changed 630 660 ⟨10, 1, 0, 7200⟩ ⟨4, 1, 0, 7200⟩, [
    "Australia/Lord_Howe"]),
  (fixed 660, [
    "Asia/Magadan", "Asia/Sakhalin", "Asia/Srednekolymsk", "Etc/GMT-11", "Pacific/Bougainville",
    "Pacific/Efate", "Pacific/Guadalcanal", "Pacific/Kosrae", "Pacific/Noumea",
    "Pacific/Pohnpei"]),
  (changed 660 720 ⟨10, 1, 0, 7200⟩ ⟨4, 1, 0, 10800⟩, [
    "Pacific/Norfolk"]),
  (fixed 720, [
    "Asia/Anadyr", "Asia/Kamchatka", "Etc/GMT-12", "Pacific/Fiji", "Pacific/Funafuti",
    "Pacific/Kwajalein", "Pacific/Majuro", "Pacific/Nauru", "Pacific/Tarawa", "Pacific/Wake",
    "Pacific/Wallis"]),
  (changed 720 780 ⟨9, 5, 0, 7200⟩ ⟨4, 1, 0, 10800⟩, [
    "Antarctica/McMurdo", "Pacific/Auckland"]),
  (changed 765 825 ⟨9, 5, 0, 9900⟩ ⟨4, 1, 0, 13500⟩, [
    "Pacific/Chatham"]),
  (fixed 780, [
    "Etc/GMT-13", "Pacific/Apia", "Pacific/Fakaofo", "Pacific/Kanton", "Pacific/Tongatapu"]),
  (fixed 840, [
    "Etc/GMT-14", "Pacific/Kiritimati"])]

def rule? (name : String) : Option Rule :=
  (groups.find? fun g => g.2.contains name).map Prod.fst

def isName (name : String) : Bool := (rule? name).isSome

/-- The same moment on clocks that follow a rule. -/
def now? (rule : Rule) (t : Timestamp) : Option Timestamp :=
  Timestamp.atOffset? t.instant (rule.offsetAt (t.instant / 1000000))

end FlexForm.TimeZone
