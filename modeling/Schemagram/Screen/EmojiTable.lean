/-!
# Names of emoji

The emoji that have names, each with the characters of its picture first and its names behind it.  A
name with a plus stands also for the picture in the five skin tones.
-/

namespace Schemagram.Screen

/-- The emoji with their names. -/
def emojiLines : List String := [
  "👍 +1 thumbs_up+ thumbsup", "👎 -1 __1 thumbs_down+ thumbsdown", "💯 100 hundred_points",
  "🔢 1234 input_numbers", "🥇 1st_place_medal", "🥈 2nd_place_medal", "🥉 3rd_place_medal",
  "🎱 8ball pool_8_ball", "🅰 a a_button_(blood_type)", "🆎 ab ab_button_(blood_type)", "🧮 abacus",
  "🔤 abc input_latin_letters", "🔡 abcd input_latin_lowercase",
  "🉑 accept japanese_acceptable_button", "🩹 adhesive_bandage", "🎟 admission_tickets", "🧑 adult+",
  "🚡 aerial_tramway", "🇦🇫 afghanistan flag_for_afghanistan", "✈ airplane",
  "🛬 airplane_arrival airplane_arriving", "🛫 airplane_departure", "⏰ alarm_clock",
  "🇦🇱 albania flag_for_albania", "⚗ alembic", "🇩🇿 algeria flag_for_algeria", "👽 alien",
  "👾 alien_monster space_invader", "🚑 ambulance", "🏈 american_football football",
  "🇦🇸 american_samoa flag_for_american_samoa", "🏺 amphora", "⚓ anchor",
  "🇦🇩 andorra flag_for_andorra", "👼 angel baby_angel+", "💢 anger anger_symbol",
  "🇦🇴 angola flag_for_angola", "😠 angry angry_face", "👿 angry_face_with_horns imp",
  "🇦🇮 anguilla flag_for_anguilla", "😧 anguished anguished_face", "🐜 ant",
  "🇦🇶 antarctica flag_for_antarctica", "📶 antenna_bars signal_strength",
  "🇦🇬 antigua_&_barbuda flag_for_antigua_&_barbuda", "😰 anxious_face_with_sweat cold_sweat",
  "🍎 apple red_apple", "♒ aquarius", "🇦🇷 argentina flag_for_argentina", "♈ aries",
  "🇦🇲 armenia flag_for_armenia", "◀ arrow_backward reverse_button",
  "⏬ arrow_double_down fast_down_button", "⏫ arrow_double_up fast_up_button",
  "⬇ arrow_down down_arrow", "🔽 arrow_down_small downwards_button", "▶ arrow_forward play_button",
  "⤵ arrow_heading_down right_arrow_curving_down", "⤴ arrow_heading_up right_arrow_curving_up",
  "⬅ arrow_left left_arrow", "↙ arrow_lower_left down-left_arrow",
  "↘ arrow_lower_right down-right_arrow", "➡ arrow_right right_arrow",
  "↪ arrow_right_hook left_arrow_curving_right", "⬆ arrow_up up_arrow",
  "↕ arrow_up_down up-down_arrow", "🔼 arrow_up_small upwards_button",
  "↖ arrow_upper_left up-left_arrow", "↗ arrow_upper_right up-right_arrow",
  "🔃 arrows_clockwise clockwise_vertical_arrows",
  "🔄 arrows_counterclockwise counterclockwise_arrows_button", "🎨 art artist_palette",
  "🚛 articulated_lorry", "🇦🇼 aruba flag_for_aruba", "🇦🇨 ascension_island flag_for_ascension_island",
  "😲 astonished astonished_face", "👟 athletic_shoe running_shoe", "🏧 atm atm_sign", "⚛ atom_symbol",
  "🇦🇺 australia flag_for_australia", "🇦🇹 austria flag_for_austria", "🛺 auto_rickshaw",
  "🚗 automobile car red_car", "🥑 avocado", "🪓 axe", "🇦🇿 azerbaijan flag_for_azerbaijan",
  "🅱 b b_button_(blood_type)", "👶 baby+", "🍼 baby_bottle", "🐤 baby_chick", "🚼 baby_symbol",
  "🔙 back back_arrow", "👇 backhand_index_pointing_down+ point_down",
  "👈 backhand_index_pointing_left+ point_left", "👉 backhand_index_pointing_right+ point_right",
  "👆 backhand_index_pointing_up+ point_up_2", "🥓 bacon", "🦡 badger",
  "🏸 badminton badminton_racquet_and_shuttlecock", "🥯 bagel", "🛄 baggage_claim", "🥖 baguette_bread",
  "🇧🇸 bahamas flag_for_bahamas", "🇧🇭 bahrain flag_for_bahrain", "⚖ balance_scale scales", "🦲 bald",
  "👨‍🦲 bald_man", "👩‍🦲 bald_woman", "🩰 ballet_shoes", "🎈 balloon", "🗳 ballot_box_with_ballot",
  "☑ ballot_box_with_check", "🎍 bamboo pine_decoration", "🍌 banana",
  "‼ bangbang double_exclamation_mark", "🇧🇩 bangladesh flag_for_bangladesh", "🪕 banjo", "🏦 bank",
  "📊 bar_chart", "🇧🇧 barbados flag_for_barbados", "💈 barber barber_pole", "⚾ baseball", "🧺 basket",
  "🏀 basketball", "🦇 bat", "🛀 bath person_taking_bath+", "🛁 bathtub", "🔋 battery",
  "🏖 beach_with_umbrella", "😁 beaming_face_with_smiling_eyes grin", "🐻 bear bear_face",
  "🧔 bearded_person+", "💓 beating_heart heartbeat", "🛏 bed", "🐝 bee honeybee", "🍺 beer beer_mug",
  "🍻 beers clinking_beer_mugs", "🐞 beetle lady_beetle", "🔰 beginner japanese_symbol_for_beginner",
  "🇧🇾 belarus flag_for_belarus", "🇧🇪 belgium flag_for_belgium", "🇧🇿 belize flag_for_belize",
  "🔔 bell", "🔕 bell_with_slash no_bell", "🛎 bellhop_bell", "🇧🇯 benin flag_for_benin",
  "🍱 bento bento_box", "🇧🇲 bermuda flag_for_bermuda", "🧃 beverage_box", "🇧🇹 bhutan flag_for_bhutan",
  "🚲 bicycle bike", "🚴 bicyclist person_biking+", "👙 bikini", "🧢 billed_cap",
  "☣ biohazard biohazard_sign", "🐦 bird", "🎂 birthday birthday_cake", "⚫ black_circle",
  "⏺ black_circle_for_record record_button", "🏴 black_flag waving_black_flag", "🖤 black_heart",
  "🃏 black_joker joker", "⬛ black_large_square",
  "⏮ black_left__pointing_double_triangle_with_vertical_bar last_track_button",
  "◾ black_medium-small_square black_medium_small_square", "◼ black_medium_square", "✒ black_nib",
  "⏭ black_right__pointing_double_triangle_with_vertical_bar next_track_button",
  "⏯ black_right__pointing_triangle_with_double_vertical_bar play_or_pause_button",
  "▪ black_small_square", "🔲 black_square_button", "⏹ black_square_for_stop stop_button",
  "👱‍♂️ blond-haired_man+", "👱 blond-haired_person+ person_with_blond_hair",
  "👱‍♀️ blond-haired_woman+", "🌼 blossom", "🐡 blowfish", "📘 blue_book",
  "🚙 blue_car sport_utility_vehicle", "🔵 blue_circle large_blue_circle", "💙 blue_heart",
  "🟦 blue_square", "😊 blush smiling_face_with_smiling_eyes", "🐗 boar", "⛵ boat sailboat",
  "🇧🇴 bolivia flag_for_bolivia", "💣 bomb", "🦴 bone", "📖 book open_book", "🔖 bookmark",
  "📑 bookmark_tabs", "📚 books", "💥 boom collision", "👢 boot woman’s_boot",
  "🇧🇦 bosnia_&_herzegovina flag_for_bosnia_&_herzegovina", "🇧🇼 botswana flag_for_botswana",
  "🍾 bottle_with_popping_cork", "💐 bouquet", "🇧🇻 bouvet_island flag_for_bouvet_island",
  "🙇 bow person_bowing+", "🏹 bow_and_arrow", "🥣 bowl_with_spoon", "🎳 bowling", "🥊 boxing_glove",
  "👦 boy+", "🧠 brain", "🇧🇷 brazil flag_for_brazil", "🍞 bread", "🤱 breast-feeding+", "🧱 brick",
  "👰 bride_with_veil+", "🌉 bridge_at_night", "💼 briefcase", "🩲 briefs",
  "🔆 bright_button high_brightness",
  "🇮🇴 british_indian_ocean_territory flag_for_british_indian_ocean_territory",
  "🇻🇬 british_virgin_islands flag_for_british_virgin_islands", "🥦 broccoli", "💔 broken_heart",
  "🧹 broom", "🟤 brown_circle", "🤎 brown_heart", "🟫 brown_square", "🇧🇳 brunei flag_for_brunei",
  "🐛 bug", "🏗 building_construction", "💡 bulb light_bulb", "🇧🇬 bulgaria flag_for_bulgaria",
  "🚅 bullet_train bullettrain_front", "🚄 bullettrain_side high-speed_train",
  "🇧🇫 burkina_faso flag_for_burkina_faso", "🌯 burrito", "🇧🇮 burundi flag_for_burundi", "🚌 bus",
  "🚏 bus_stop busstop", "👤 bust_in_silhouette", "👥 busts_in_silhouette", "🧈 butter", "🦋 butterfly",
  "🌵 cactus", "🍰 cake shortcake", "📆 calendar tear-off_calendar", "🤙 call_me_hand+",
  "📲 calling mobile_phone_with_arrow", "🇰🇭 cambodia flag_for_cambodia", "🐫 camel two-hump_camel",
  "📷 camera", "📸 camera_with_flash", "🇨🇲 cameroon flag_for_cameroon", "🏕 camping",
  "🇨🇦 canada flag_for_canada", "🇮🇨 canary_islands flag_for_canary_islands", "♋ cancer", "🕯 candle",
  "🍬 candy", "🥫 canned_food", "🛶 canoe", "🇨🇻 cape_verde flag_for_cape_verde",
  "🔠 capital_abcd input_latin_uppercase", "♑ capricorn", "🗃 card_file_box", "📇 card_index",
  "🗂 card_index_dividers", "🇧🇶 caribbean_netherlands flag_for_caribbean_netherlands",
  "🎠 carousel_horse", "🎏 carp_streamer flags", "🥕 carrot", "🏰 castle european_castle",
  "🐱 cat cat_face", "🐈 cat2", "😹 cat_face_with_tears_of_joy joy_cat",
  "😼 cat_face_with_wry_smile smirk_cat", "🇰🇾 cayman_islands flag_for_cayman_islands",
  "💿 cd optical_disk", "🇨🇫 central_african_republic flag_for_central_african_republic",
  "🇪🇦 ceuta_&_melilla flag_for_ceuta_&_melilla", "🇹🇩 chad flag_for_chad", "⛓ chains", "🪑 chair",
  "💹 chart chart_increasing_with_yen", "📉 chart_decreasing chart_with_downwards_trend",
  "📈 chart_increasing chart_with_upwards_trend", "🏁 checkered_flag chequered_flag",
  "🧀 cheese_wedge", "🍒 cherries", "🌸 cherry_blossom", "♟ chess_pawn", "🌰 chestnut", "🐔 chicken",
  "🧒 child+", "🚸 children_crossing", "🇨🇱 chile flag_for_chile", "🇨🇳 china flag_for_china",
  "🐿 chipmunk", "🍫 chocolate_bar", "🥢 chopsticks", "🇨🇽 christmas_island flag_for_christmas_island",
  "🎄 christmas_tree", "⛪ church", "🚬 cigarette smoking", "🎦 cinema", "Ⓜ circled_m m",
  "🎪 circus_tent", "🌇 city_sunrise sunset", "🌆 city_sunset cityscape_at_dusk", "🏙 cityscape",
  "🆑 cl cl_button", "🗜 clamp compression", "👏 clap clapping_hands+", "🎬 clapper clapper_board",
  "🏛 classical_building", "🥂 clinking_glasses", "📋 clipboard",
  "🇨🇵 clipperton_island flag_for_clipperton_island", "🕐 clock1 one_o’clock",
  "🕙 clock10 ten_o’clock", "🕥 clock1030 ten-thirty", "🕚 clock11 eleven_o’clock",
  "🕦 clock1130 eleven-thirty", "🕛 clock12 twelve_o’clock", "🕧 clock1230 twelve-thirty",
  "🕜 clock130 one-thirty", "🕑 clock2 two_o’clock", "🕝 clock230 two-thirty",
  "🕒 clock3 three_o’clock", "🕞 clock330 three-thirty", "🕓 clock4 four_o’clock",
  "🕟 clock430 four-thirty", "🕔 clock5 five_o’clock", "🕠 clock530 five-thirty",
  "🕕 clock6 six_o’clock", "🕡 clock630 six-thirty", "🕖 clock7 seven_o’clock",
  "🕢 clock730 seven-thirty", "🕗 clock8 eight_o’clock", "🕣 clock830 eight-thirty",
  "🕘 clock9 nine_o’clock", "🕤 clock930 nine-thirty", "📕 closed_book",
  "🔐 closed_lock_with_key locked_with_key", "📪 closed_mailbox_with_lowered_flag mailbox_closed",
  "📫 closed_mailbox_with_raised_flag mailbox", "🌂 closed_umbrella", "☁ cloud",
  "🌩 cloud_with_lightning", "⛈ cloud_with_lightning_and_rain thunder_cloud_and_rain",
  "🌧 cloud_with_rain", "🌨 cloud_with_snow", "🌪 cloud_with_tornado tornado", "🤡 clown_face",
  "♣ club_suit clubs", "👝 clutch_bag pouch", "🧥 coat", "🍸 cocktail cocktail_glass", "🥥 coconut",
  "🇨🇨 cocos_(keeling)_islands flag_for_cocos__islands", "☕ coffee hot_beverage", "⚰ coffin",
  "🥶 cold_face", "🇨🇴 colombia flag_for_colombia", "☄ comet", "🇰🇲 comoros flag_for_comoros",
  "🧭 compass", "💻 computer laptop_computer", "💽 computer_disk minidisc",
  "🖱 computer_mouse three_button_mouse", "🎊 confetti_ball", "😖 confounded confounded_face",
  "😕 confused confused_face", "🇨🇬 congo_-_brazzaville flag_for_congo____brazzaville",
  "🇨🇩 congo_-_kinshasa flag_for_congo____kinshasa",
  "㊗ congratulations japanese_congratulations_button", "🚧 construction", "👷 construction_worker+",
  "🎛 control_knobs", "🏪 convenience_store", "🇨🇰 cook_islands flag_for_cook_islands",
  "🍚 cooked_rice rice", "🍪 cookie", "🍳 cooking egg", "🆒 cool cool_button", "👮 cop police_officer+",
  "© \x63opyright", "🌽 corn ear_of_corn", "🇨🇷 costa_rica flag_for_costa_rica", "🛋 couch_and_lamp",
  "👫 couple man_and_woman_holding_hands", "💑 couple_with_heart", "👨‍❤️‍👨 couple_with_heart_man_man",
  "👩‍❤️‍👨 couple_with_heart_woman_man", "👩‍❤️‍👩 couple_with_heart_woman_woman", "💏 couplekiss",
  "🐮 cow cow_face", "🐄 cow2", "🤠 cowboy_hat_face", "🦀 crab", "🖍 crayon lower_left_crayon",
  "💳 credit_card", "🌙 crescent_moon", "🦗 cricket", "🏏 cricket_bat_and_ball cricket_game",
  "🇭🇷 croatia flag_for_croatia", "🐊 crocodile", "🥐 croissant", "❌ cross_mark x",
  "❎ cross_mark_button negative_squared_cross_mark", "🤞 crossed_fingers+", "🎌 crossed_flags",
  "⚔ crossed_swords", "👑 crown", "😢 cry crying_face", "😿 crying_cat_face", "🔮 crystal_ball",
  "🇨🇺 cuba flag_for_cuba", "🥒 cucumber", "🥤 cup_with_straw", "🧁 cupcake",
  "💘 cupid heart_with_arrow", "🇨🇼 curaçao flag_for_curaçao", "🥌 curling_stone",
  "👨‍🦱 curly-haired_man", "👩‍🦱 curly-haired_woman", "🦱 curly_hair", "➰ curly_loop",
  "💱 currency_exchange", "🍛 curry curry_rice", "🍮 custard", "🛃 customs", "🥩 cut_of_meat",
  "🌀 cyclone", "🇨🇾 cyprus flag_for_cyprus", "🇨🇿 czechia flag_for_czech_republic",
  "🇨🇮 côte_d’ivoire flag_for_côte_d’ivoire", "🗡 dagger dagger_knife", "💃 dancer woman_dancing+",
  "👯 dancers people_with_bunny_ears", "🍡 dango",
  "🏿 dark_skin_tone emoji_modifier_fitzpatrick_type__6", "🕶 dark_sunglasses", "🎯 dart direct_hit",
  "💨 dash dashing_away", "📅 date", "🧏 deaf_person", "🌳 deciduous_tree", "🦌 deer",
  "🚚 delivery_truck truck", "🇩🇰 denmark flag_for_denmark", "🏬 department_store",
  "🏚 derelict_house derelict_house_building", "🏜 desert", "🏝 desert_island", "🖥 desktop_computer",
  "🕵 detective+ sleuth_or_spy", "💠 diamond_shape_with_a_dot_inside diamond_with_a_dot",
  "♦ diamond_suit diamonds", "🇩🇬 diego_garcia flag_for_diego_garcia", "🔅 dim_button low_brightness",
  "😞 disappointed disappointed_face", "😥 disappointed_relieved sad_but_relieved_face",
  "🤿 diving_mask", "🪔 diya_lamp", "💫 dizzy", "😵 dizzy_face", "🇩🇯 djibouti flag_for_djibouti",
  "🧬 dna", "🚯 do_not_litter no_littering", "🐶 dog dog_face", "🐕 dog2", "💵 dollar dollar_banknote",
  "🎎 dolls japanese_dolls", "🐬 dolphin flipper", "🇩🇲 dominica flag_for_dominica",
  "🇩🇴 dominican_republic flag_for_dominican_republic", "🚪 door",
  "🔯 dotted_six-pointed_star six_pointed_star", "➿ double_curly_loop loop",
  "⏸ double_vertical_bar pause_button", "🍩 doughnut", "🕊 dove dove_of_peace",
  "😓 downcast_face_with_sweat sweat", "🐉 dragon", "🐲 dragon_face", "👗 dress", "🐪 dromedary_camel",
  "🤤 drooling_face", "🩸 drop_of_blood", "💧 droplet", "🥁 drum", "🦆 duck", "🥟 dumpling", "📀 dvd",
  "📧 e-mail e__mail", "🦅 eagle", "👂 ear+", "🌾 ear_of_rice sheaf_of_rice", "🦻 ear_with_hearing_aid",
  "🌍 earth_africa globe_showing_europe-africa", "🌎 earth_americas globe_showing_americas",
  "🌏 earth_asia globe_showing_asia-australia", "🇪🇨 ecuador flag_for_ecuador", "🍆 eggplant",
  "🇪🇬 egypt flag_for_egypt", "8️⃣ eight keycap_8", "✴ eight-pointed_star eight_pointed_black_star",
  "✳ eight-spoked_asterisk eight_spoked_asterisk", "⏏ eject_button eject_symbol",
  "🇸🇻 el_salvador flag_for_el_salvador", "🔌 electric_plug", "🐘 elephant", "🧝 elf+",
  "✉ email envelope", "🏻 emoji_modifier_fitzpatrick_type__1__2 light_skin_tone",
  "🏼 emoji_modifier_fitzpatrick_type__3 medium_light_skin_tone",
  "🏽 emoji_modifier_fitzpatrick_type__4 medium_skin_tone",
  "🏾 emoji_modifier_fitzpatrick_type__5 medium_dark_skin_tone", "🔚 end end_arrow",
  "🏴󠁧󠁢󠁥󠁮󠁧󠁿 england", "📩 envelope_with_arrow", "🇬🇶 equatorial_guinea flag_for_equatorial_guinea",
  "🇪🇷 eritrea flag_for_eritrea", "🇪🇪 estonia flag_for_estonia", "🇪🇹 ethiopia flag_for_ethiopia",
  "💶 euro euro_banknote", "🏤 european_post_office", "🇪🇺 european_union flag_for_european_union",
  "🌲 evergreen_tree", "🐑 ewe sheep", "❗ exclamation exclamation_mark heavy_exclamation_mark",
  "⁉ exclamation_question_mark interrobang", "🤯 exploding_head",
  "😑 expressionless expressionless_face", "👁 eye", "👁️‍🗨️ eye_in_speech_bubble",
  "👓 eyeglasses glasses", "👀 eyes", "😘 face_blowing_a_kiss kissing_heart",
  "😋 face_savoring_food yum", "😱 face_screaming_in_fear scream", "🤮 face_vomiting",
  "🤭 face_with_hand_over_mouth", "🤕 face_with_head-bandage face_with_head__bandage",
  "😷 face_with_medical_mask mask", "🧐 face_with_monocle", "😮 face_with_open_mouth open_mouth",
  "🤨 face_with_raised_eyebrow", "🙄 face_with_rolling_eyes", "😤 face_with_steam_from_nose triumph",
  "🤬 face_with_symbols_on_mouth", "😂 face_with_tears_of_joy joy", "🤒 face_with_thermometer",
  "😛 face_with_tongue stuck_out_tongue", "😶 face_without_mouth no_mouth",
  "👊 facepunch oncoming_fist+ punch", "🏭 factory", "🧚 fairy+", "🧆 falafel",
  "🇫🇰 falkland_islands flag_for_falkland_islands", "🍂 fallen_leaf", "👪 family",
  "👨‍👦 family_man_boy", "👨‍👦‍👦 family_man_boy_boy", "👨‍👧 family_man_girl",
  "👨‍👧‍👦 family_man_girl_boy", "👨‍👧‍👧 family_man_girl_girl", "👨‍👨‍👦 family_man_man_boy",
  "👨‍👨‍👦‍👦 family_man_man_boy_boy", "👨‍👨‍👧 family_man_man_girl", "👨‍👨‍👧‍👦 family_man_man_girl_boy",
  "👨‍👨‍👧‍👧 family_man_man_girl_girl", "👨‍👩‍👦 family_man_woman_boy",
  "👨‍👩‍👦‍👦 family_man_woman_boy_boy", "👨‍👩‍👧 family_man_woman_girl",
  "👨‍👩‍👧‍👦 family_man_woman_girl_boy", "👨‍👩‍👧‍👧 family_man_woman_girl_girl", "👩‍👦 family_woman_boy",
  "👩‍👦‍👦 family_woman_boy_boy", "👩‍👧 family_woman_girl", "👩‍👧‍👦 family_woman_girl_boy",
  "👩‍👧‍👧 family_woman_girl_girl", "👩‍👩‍👦 family_woman_woman_boy",
  "👩‍👩‍👦‍👦 family_woman_woman_boy_boy", "👩‍👩‍👧 family_woman_woman_girl",
  "👩‍👩‍👧‍👦 family_woman_woman_girl_boy", "👩‍👩‍👧‍👧 family_woman_woman_girl_girl",
  "🇫🇴 faroe_islands flag_for_faroe_islands", "⏩ fast-forward_button fast_forward",
  "⏪ fast_reverse_button rewind", "📠 fax fax_machine", "😨 fearful fearful_face",
  "🐾 feet paw_prints", "♀ female_sign", "🎡 ferris_wheel", "⛴ ferry",
  "🏑 field_hockey field_hockey_stick_and_ball", "🇫🇯 fiji flag_for_fiji", "🗄 file_cabinet",
  "📁 file_folder", "🎞 film_frames", "📽 film_projector", "🇫🇮 finland flag_for_finland", "🔥 fire",
  "🚒 fire_engine", "🧯 fire_extinguisher", "🧨 firecracker", "🎆 fireworks", "🌓 first_quarter_moon",
  "🌛 first_quarter_moon_face first_quarter_moon_with_face", "🐟 fish",
  "🍥 fish_cake fish_cake_with_swirl", "🎣 fishing_pole fishing_pole_and_fish", "✊ fist raised_fist+",
  "5️⃣ five keycap_5", "🇫🇷 flag_for_france france", "🇬🇫 flag_for_french_guiana french_guiana",
  "🇵🇫 flag_for_french_polynesia french_polynesia",
  "🇹🇫 flag_for_french_southern_territories french_southern_territories", "🇬🇦 flag_for_gabon gabon",
  "🇬🇲 flag_for_gambia gambia", "🇬🇪 flag_for_georgia georgia", "🇩🇪 flag_for_germany germany",
  "🇬🇭 flag_for_ghana ghana", "🇬🇮 flag_for_gibraltar gibraltar", "🇬🇷 flag_for_greece greece",
  "🇬🇱 flag_for_greenland greenland", "🇬🇩 flag_for_grenada grenada",
  "🇬🇵 flag_for_guadeloupe guadeloupe", "🇬🇺 flag_for_guam guam", "🇬🇹 flag_for_guatemala guatemala",
  "🇬🇬 flag_for_guernsey guernsey", "🇬🇳 flag_for_guinea guinea",
  "🇬🇼 flag_for_guinea__bissau guinea-bissau", "🇬🇾 flag_for_guyana guyana",
  "🇭🇹 flag_for_haiti haiti", "🇭🇲 flag_for_heard_&_mcdonald_islands heard_&_mcdonald_islands",
  "🇭🇳 flag_for_honduras honduras", "🇭🇰 flag_for_hong_kong hong_kong_sar_china",
  "🇭🇺 flag_for_hungary hungary", "🇮🇸 flag_for_iceland iceland", "🇮🇳 flag_for_india india",
  "🇮🇩 flag_for_indonesia indonesia", "🇮🇷 flag_for_iran iran", "🇮🇶 flag_for_iraq iraq",
  "🇮🇪 flag_for_ireland ireland", "🇮🇲 flag_for_isle_of_man isle_of_man", "🇮🇱 flag_for_israel israel",
  "🇮🇹 flag_for_italy italy", "🇯🇲 flag_for_jamaica jamaica", "🇯🇵 flag_for_japan",
  "🇯🇪 flag_for_jersey jersey", "🇯🇴 flag_for_jordan jordan", "🇰🇿 flag_for_kazakhstan kazakhstan",
  "🇰🇪 flag_for_kenya kenya", "🇰🇮 flag_for_kiribati kiribati", "🇽🇰 flag_for_kosovo kosovo",
  "🇰🇼 flag_for_kuwait kuwait", "🇰🇬 flag_for_kyrgyzstan kyrgyzstan", "🇱🇦 flag_for_laos laos",
  "🇱🇻 flag_for_latvia latvia", "🇱🇧 flag_for_lebanon lebanon", "🇱🇸 flag_for_lesotho lesotho",
  "🇱🇷 flag_for_liberia liberia", "🇱🇾 flag_for_libya libya",
  "🇱🇮 flag_for_liechtenstein liechtenstein", "🇱🇹 flag_for_lithuania lithuania",
  "🇱🇺 flag_for_luxembourg luxembourg", "🇲🇴 flag_for_macau macau_sar_china",
  "🇲🇰 flag_for_macedonia macedonia", "🇲🇬 flag_for_madagascar madagascar",
  "🇲🇼 flag_for_malawi malawi", "🇲🇾 flag_for_malaysia malaysia", "🇲🇻 flag_for_maldives maldives",
  "🇲🇱 flag_for_mali mali", "🇲🇹 flag_for_malta malta",
  "🇲🇭 flag_for_marshall_islands marshall_islands", "🇲🇶 flag_for_martinique martinique",
  "🇲🇷 flag_for_mauritania mauritania", "🇲🇺 flag_for_mauritius mauritius",
  "🇾🇹 flag_for_mayotte mayotte", "🇲🇽 flag_for_mexico mexico", "🇫🇲 flag_for_micronesia micronesia",
  "🇲🇩 flag_for_moldova moldova", "🇲🇨 flag_for_monaco monaco", "🇲🇳 flag_for_mongolia mongolia",
  "🇲🇪 flag_for_montenegro montenegro", "🇲🇸 flag_for_montserrat montserrat",
  "🇲🇦 flag_for_morocco morocco", "🇲🇿 flag_for_mozambique mozambique",
  "🇲🇲 flag_for_myanmar myanmar_(burma)", "🇳🇦 flag_for_namibia namibia", "🇳🇷 flag_for_nauru nauru",
  "🇳🇵 flag_for_nepal nepal", "🇳🇱 flag_for_netherlands netherlands",
  "🇳🇨 flag_for_new_caledonia new_caledonia", "🇳🇿 flag_for_new_zealand new_zealand",
  "🇳🇮 flag_for_nicaragua nicaragua", "🇳🇪 flag_for_niger niger", "🇳🇬 flag_for_nigeria nigeria",
  "🇳🇺 flag_for_niue niue", "🇳🇫 flag_for_norfolk_island norfolk_island",
  "🇰🇵 flag_for_north_korea north_korea",
  "🇲🇵 flag_for_northern_mariana_islands northern_mariana_islands", "🇳🇴 flag_for_norway norway",
  "🇴🇲 flag_for_oman oman", "🇵🇰 flag_for_pakistan pakistan", "🇵🇼 flag_for_palau palau",
  "🇵🇸 flag_for_palestinian_territories palestinian_territories", "🇵🇦 flag_for_panama panama",
  "🇵🇬 flag_for_papua_new_guinea papua_new_guinea", "🇵🇾 flag_for_paraguay paraguay",
  "🇵🇪 flag_for_peru peru", "🇵🇭 flag_for_philippines philippines",
  "🇵🇳 flag_for_pitcairn_islands pitcairn_islands", "🇵🇱 flag_for_poland poland",
  "🇵🇹 flag_for_portugal portugal", "🇵🇷 flag_for_puerto_rico puerto_rico", "🇶🇦 flag_for_qatar qatar",
  "🇷🇴 flag_for_romania romania", "🇷🇺 flag_for_russia russia", "🇷🇼 flag_for_rwanda rwanda",
  "🇷🇪 flag_for_réunion réunion", "🇼🇸 flag_for_samoa samoa", "🇸🇲 flag_for_san_marino san_marino",
  "🇸🇦 flag_for_saudi_arabia saudi_arabia", "🇸🇳 flag_for_senegal senegal",
  "🇷🇸 flag_for_serbia serbia", "🇸🇨 flag_for_seychelles seychelles",
  "🇸🇱 flag_for_sierra_leone sierra_leone", "🇸🇬 flag_for_singapore singapore",
  "🇸🇽 flag_for_sint_maarten sint_maarten", "🇸🇰 flag_for_slovakia slovakia",
  "🇸🇮 flag_for_slovenia slovenia", "🇸🇧 flag_for_solomon_islands solomon_islands",
  "🇸🇴 flag_for_somalia somalia", "🇿🇦 flag_for_south_africa south_africa",
  "🇬🇸 flag_for_south_georgia_&_south_sandwich_islands south_georgia_&_south_sandwich_islands",
  "🇰🇷 flag_for_south_korea south_korea", "🇸🇸 flag_for_south_sudan south_sudan",
  "🇪🇸 flag_for_spain spain", "🇱🇰 flag_for_sri_lanka sri_lanka",
  "🇧🇱 flag_for_st._barthélemy st._barthélemy", "🇸🇭 flag_for_st._helena st._helena",
  "🇰🇳 flag_for_st._kitts_&_nevis st._kitts_&_nevis", "🇱🇨 flag_for_st._lucia st._lucia",
  "🇲🇫 flag_for_st._martin st._martin", "🇵🇲 flag_for_st._pierre_&_miquelon st._pierre_&_miquelon",
  "🇻🇨 flag_for_st._vincent_&_grenadines st._vincent_&_grenadines", "🇸🇩 flag_for_sudan sudan",
  "🇸🇷 flag_for_suriname suriname", "🇸🇯 flag_for_svalbard_&_jan_mayen svalbard_&_jan_mayen",
  "🇸🇿 flag_for_swaziland swaziland", "🇸🇪 flag_for_sweden sweden",
  "🇨🇭 flag_for_switzerland switzerland", "🇸🇾 flag_for_syria syria",
  "🇸🇹 flag_for_são_tomé_&_príncipe são_tomé_&_príncipe", "🇹🇼 flag_for_taiwan taiwan",
  "🇹🇯 flag_for_tajikistan tajikistan", "🇹🇿 flag_for_tanzania tanzania",
  "🇹🇭 flag_for_thailand thailand", "🇹🇱 flag_for_timor__leste timor-leste", "🇹🇬 flag_for_togo togo",
  "🇹🇰 flag_for_tokelau tokelau", "🇹🇴 flag_for_tonga tonga",
  "🇹🇹 flag_for_trinidad_&_tobago trinidad_&_tobago",
  "🇹🇦 flag_for_tristan_da_cunha tristan_da_cunha", "🇹🇳 flag_for_tunisia tunisia",
  "🇹🇷 flag_for_turkey", "🇹🇲 flag_for_turkmenistan turkmenistan",
  "🇹🇨 flag_for_turks_&_caicos_islands turks_&_caicos_islands", "🇹🇻 flag_for_tuvalu tuvalu",
  "🇺🇲 flag_for_u.s._outlying_islands u.s._outlying_islands",
  "🇻🇮 flag_for_u.s._virgin_islands u.s._virgin_islands", "🇺🇬 flag_for_uganda uganda",
  "🇺🇦 flag_for_ukraine ukraine", "🇦🇪 flag_for_united_arab_emirates united_arab_emirates",
  "🇬🇧 flag_for_united_kingdom united_kingdom", "🇺🇸 flag_for_united_states united_states",
  "🇺🇾 flag_for_uruguay uruguay", "🇺🇿 flag_for_uzbekistan uzbekistan", "🇻🇺 flag_for_vanuatu vanuatu",
  "🇻🇦 flag_for_vatican_city vatican_city", "🇻🇪 flag_for_venezuela venezuela",
  "🇻🇳 flag_for_vietnam vietnam", "🇼🇫 flag_for_wallis_&_futuna wallis_&_futuna",
  "🇪🇭 flag_for_western_sahara western_sahara", "🇾🇪 flag_for_yemen yemen",
  "🇿🇲 flag_for_zambia zambia", "🇿🇼 flag_for_zimbabwe zimbabwe",
  "🇦🇽 flag_for_åland_islands åland_islands", "⛳ flag_in_hole golf", "🦩 flamingo", "🔦 flashlight",
  "🥿 flat_shoe", "⚜ fleur-de-lis fleur__de__lis", "💪 flexed_biceps+ muscle", "💾 floppy_disk",
  "🎴 flower_playing_cards", "😳 flushed flushed_face", "🥏 flying_disc", "🛸 flying_saucer", "🌫 fog",
  "🌁 foggy", "🙏 folded_hands+ pray", "🦶 foot", "👣 footprints", "🍴 fork_and_knife",
  "🍽 fork_and_knife_with_plate", "🥠 fortune_cookie", "⛲ fountain",
  "🖋 fountain_pen lower_left_fountain_pen", "4️⃣ four keycap_4", "🍀 four_leaf_clover", "🦊 fox_face",
  "🖼 frame_with_picture framed_picture", "🆓 free free_button", "🍟 french_fries fries",
  "🍤 fried_shrimp", "🐸 frog frog_face", "🐥 front-facing_baby_chick hatched_chick",
  "😦 frowning frowning_face_with_open_mouth", "☹ frowning_face white_frowning_face",
  "⛽ fuel_pump fuelpump", "🌕 full_moon", "🌝 full_moon_face full_moon_with_face", "⚱ funeral_urn",
  "🎲 game_die", "🧄 garlic", "⚙ gear", "💎 gem gem_stone", "♊ gemini", "🧞 genie", "👻 ghost",
  "🎁 gift wrapped_gift", "💝 gift_heart heart_with_ribbon", "🦒 giraffe", "👧 girl+",
  "🥛 glass_of_milk", "🌐 globe_with_meridians", "🧤 gloves", "🌟 glowing_star star2", "🥅 goal_net",
  "🐐 goat", "👺 goblin japanese_goblin", "🥽 goggles", "🏌 golfer person_golfing+", "🦍 gorilla",
  "🎓 graduation_cap mortar_board", "🍇 grapes", "🍏 green_apple", "📗 green_book", "🟢 green_circle",
  "💚 green_heart", "🥗 green_salad", "🟩 green_square", "❕ grey_exclamation white_exclamation_mark",
  "❔ grey_question white_question_mark", "😬 grimacing grimacing_face", "😀 grinning grinning_face",
  "😺 grinning_cat_face smiley_cat", "😸 grinning_cat_face_with_smiling_eyes smile_cat",
  "😃 grinning_face_with_big_eyes smiley", "😄 grinning_face_with_smiling_eyes smile",
  "😅 grinning_face_with_sweat sweat_smile", "😆 grinning_squinting_face laughing satisfied",
  "💗 growing_heart heartpulse", "💂 guard+ guardsman", "🦮 guide_dog", "🎸 guitar", "🔫 gun pistol",
  "💇 haircut person_getting_haircut+", "🍔 hamburger", "🔨 hammer", "⚒ hammer_and_pick",
  "🛠 hammer_and_wrench", "🐹 hamster hamster_face", "✋ hand raised_hand+",
  "🖐 hand_with_fingers_splayed+ raised_hand_with_fingers_splayed", "👜 handbag", "🤝 handshake",
  "💩 hankey pile_of_poo poop shit", "🐣 hatching_chick", "🎧 headphone headphones",
  "🙉 hear-no-evil_monkey hear_no_evil", "❤ heart red_heart", "💟 heart_decoration",
  "😍 heart_eyes smiling_face_with_heart-eyes", "😻 heart_eyes_cat smiling_cat_face_with_heart-eyes",
  "♥ heart_suit hearts", "✔ heavy_check_mark", "➗ heavy_division_sign", "💲 heavy_dollar_sign",
  "❣ heavy_heart_exclamation heavy_heart_exclamation_mark_ornament", "⭕ heavy_large_circle o",
  "➖ heavy_minus_sign", "✖ heavy_multiplication_x", "➕ heavy_plus_sign", "🦔 hedgehog",
  "🚁 helicopter", "⎈ helm_symbol", "⛑ helmet_with_white_cross rescue_worker’s_helmet", "🌿 herb",
  "🌺 hibiscus", "👠 high-heeled_shoe high_heel", "⚡ high_voltage zap", "🥾 hiking_boot",
  "🛕 hindu_temple", "🦛 hippopotamus", "🔪 hocho kitchen_knife knife", "🕳 hole", "🍯 honey_pot",
  "🚥 horizontal_traffic_light traffic_light", "🐴 horse horse_face", "🏇 horse_racing+", "🏥 hospital",
  "🌭 hot_dog", "🥵 hot_face", "🌶 hot_pepper", "♨ hot_springs hotsprings", "🏨 hotel",
  "⌛ hourglass hourglass_done", "⏳ hourglass_flowing_sand hourglass_not_done", "🏠 house",
  "🏘 house_buildings houses", "🏡 house_with_garden", "🤗 hugging_face", "😯 hushed hushed_face",
  "🧊 ice", "🍨 ice_cream", "🏒 ice_hockey ice_hockey_stick_and_puck", "⛸ ice_skate",
  "🍦 icecream soft_ice_cream", "🆔 id id_button", "🉐 ideograph_advantage japanese_bargain_button",
  "📥 inbox_tray", "📨 incoming_envelope", "☝ index_pointing_up+ point_up", "♾ infinity",
  "ℹ information information_source", "💁 information_desk_person person_tipping_hand+",
  "😇 innocent smiling_face_with_halo", "🔣 input_symbols symbols", "📱 iphone mobile_phone",
  "🏮 izakaya_lantern lantern red_paper_lantern", "🎃 jack-o-lantern jack_o_lantern",
  "🗾 japan map_of_japan", "🈸 japanese_application_button u7533", "🏯 japanese_castle",
  "🈹 japanese_discount_button u5272", "🈚 japanese_free_of_charge_button u7121",
  "🈁 japanese_here_button koko", "🈷 japanese_monthly_amount_button u6708",
  "🈵 japanese_no_vacancy_button u6e80", "🈶 japanese_not_free_of_charge_button u6709",
  "👹 japanese_ogre ogre", "🈺 japanese_open_for_business_button u55b6",
  "🈴 japanese_passing_grade_button u5408", "🏣 japanese_post_office post_office",
  "🈲 japanese_prohibited_button u7981", "🈯 japanese_reserved_button u6307",
  "㊙ japanese_secret_button secret", "🈂 japanese_service_charge_button sa",
  "🈳 japanese_vacancy_button u7a7a", "👖 jeans", "🧩 jigsaw", "🕹 joystick", "🕋 kaaba", "🦘 kangaroo",
  "🔑 key", "⌨ keyboard", "#️⃣ keycap_#", "*️⃣ keycap_*", "0️⃣ keycap_0 zero", "1️⃣ keycap_1 one",
  "🔟 keycap_10 ten", "2️⃣ keycap_2 two", "3️⃣ keycap_3 three", "6️⃣ keycap_6 six",
  "7️⃣ keycap_7 seven", "9️⃣ keycap_9 nine", "*⃣ keycap_asterisk", "8⃣ keycap_digit_eight",
  "5⃣ keycap_digit_five", "4⃣ keycap_digit_four", "9⃣ keycap_digit_nine", "1⃣ keycap_digit_one",
  "7⃣ keycap_digit_seven", "6⃣ keycap_digit_six", "3⃣ keycap_digit_three", "2⃣ keycap_digit_two",
  "0⃣ keycap_digit_zero", "#⃣ keycap_number_sign", "🛴 kick_scooter", "👘 kimono", "💋 kiss kiss_mark",
  "👨‍❤️‍💋‍👨 kiss_man_man", "👩‍❤️‍💋‍👨 kiss_woman_man", "👩‍❤️‍💋‍👩 kiss_woman_woman",
  "😗 kissing kissing_face", "😽 kissing_cat kissing_cat_face",
  "😚 kissing_closed_eyes kissing_face_with_closed_eyes",
  "😙 kissing_face_with_smiling_eyes kissing_smiling_eyes", "🪁 kite", "🥝 kiwi_fruit", "🐨 koala",
  "🥼 lab_coat", "🏷 label", "🥍 lacrosse", "🔷 large_blue_diamond", "🔶 large_orange_diamond",
  "🌗 last_quarter_moon", "🌜 last_quarter_moon_face last_quarter_moon_with_face", "✝ latin_cross",
  "🍃 leaf_fluttering_in_wind leaves", "🥬 leafy_green", "📒 ledger", "🤛 left-facing_fist+",
  "↔ left-right_arrow left_right_arrow", "🛅 left_luggage", "🗨 left_speech_bubble",
  "↩ leftwards_arrow_with_hook right_arrow_curving_left", "🦵 leg", "🍋 lemon", "♌ leo", "🐆 leopard",
  "🎚 level_slider", "♎ libra", "🚈 light_rail", "🔗 link", "🖇 linked_paperclips", "🦁 lion_face",
  "👄 lips mouth", "💄 lipstick", "🚮 litter_in_bin_sign put_litter_in_its_place", "🦎 lizard",
  "🦙 llama", "🦞 lobster", "🔒 lock locked", "🔏 lock_with_ink_pen locked_with_pen",
  "🚂 locomotive steam_locomotive", "🍭 lollipop", "🧴 lotion_bottle",
  "🔊 loud_sound speaker_high_volume", "😭 loudly_crying_face sob", "📢 loudspeaker",
  "🤟 love-you_gesture+", "🏩 love_hotel", "💌 love_letter", "🖊 lower_left_ballpoint_pen pen",
  "🖌 lower_left_paintbrush paintbrush", "🧳 luggage", "🤥 lying_face",
  "🔍 mag magnifying_glass_tilted_left", "🔎 mag_right magnifying_glass_tilted_right", "🧙 mage+",
  "🧲 magnet", "🀄 mahjong mahjong_red_dragon", "📬 mailbox_with_mail open_mailbox_with_raised_flag",
  "📭 mailbox_with_no_mail open_mailbox_with_lowered_flag", "♂ male_sign", "👨 man+",
  "👨‍🎨 man_artist+", "👨‍🚀 man_astronaut+", "🚴‍♂️ man_biking+", "⛹️‍♂️ man_bouncing_ball+",
  "🙇‍♂️ man_bowing+", "🤸‍♂️ man_cartwheeling+", "🧗‍♂️ man_climbing+",
  "👷‍♂️ man_construction_worker+", "👨‍🍳 man_cook+", "🕺 man_dancing+", "🕵️‍♂️ man_detective+",
  "🧝‍♂️ man_elf+", "🤦‍♂️ man_facepalming+", "👨‍🏭 man_factory_worker+", "🧚‍♂️ man_fairy+",
  "👨‍🌾 man_farmer+", "👨‍🚒 man_firefighter+", "🙍‍♂️ man_frowning+", "🧞‍♂️ man_genie",
  "🙅‍♂️ man_gesturing_no+", "🙆‍♂️ man_gesturing_ok+", "💇‍♂️ man_getting_haircut+",
  "💆‍♂️ man_getting_massage+", "🏌️‍♂️ man_golfing+", "💂‍♂️ man_guard+", "👨‍⚕️ man_health_worker+",
  "🕴 man_in_business_suit_levitating man_in_suit_levitating+", "🧘‍♂️ man_in_lotus_position+",
  "👨‍🦽 man_in_manual_wheelchair", "👨‍🦼 man_in_motorized_wheelchair", "🧖‍♂️ man_in_steamy_room+",
  "🤵 man_in_tuxedo+", "👨‍⚖️ man_judge+", "🤹‍♂️ man_juggling+", "🏋️‍♂️ man_lifting_weights+",
  "🧙‍♂️ man_mage+", "👨‍🔧 man_mechanic+", "🚵‍♂️ man_mountain_biking+", "👨‍💼 man_office_worker+",
  "👨‍✈️ man_pilot+", "🤾‍♂️ man_playing_handball+", "🤽‍♂️ man_playing_water_polo+",
  "👮‍♂️ man_police_officer+", "🙎‍♂️ man_pouting+", "🙋‍♂️ man_raising_hand+",
  "🚣‍♂️ man_rowing_boat+", "🏃‍♂️ man_running+", "👨‍🔬 man_scientist+", "🤷‍♂️ man_shrugging+",
  "👨‍🎤 man_singer+", "👨‍🎓 man_student+", "🏄‍♂️ man_surfing+", "🏊‍♂️ man_swimming+",
  "👨‍🏫 man_teacher+", "👨‍💻 man_technologist+", "💁‍♂️ man_tipping_hand+", "🧛‍♂️ man_vampire+",
  "🚶‍♂️ man_walking+", "👳‍♂️ man_wearing_turban+", "👲 man_with_chinese_cap+ man_with_gua_pi_mao",
  "👨‍🦯 man_with_probing_cane", "👳 man_with_turban person_wearing_turban+", "🧟‍♂️ man_zombie",
  "🥭 mango", "👞 mans_shoe man’s_shoe shoe", "🕰 mantelpiece_clock", "🦽 manual_wheelchair",
  "🍁 maple_leaf", "🥋 martial_arts_uniform", "💆 massage person_getting_massage+", "🧉 mate",
  "🍖 meat_on_bone", "🦾 mechanical_arm", "🦿 mechanical_leg", "⚕ medical_symbol", "📣 mega megaphone",
  "🍈 melon", "📝 memo pencil", "👯‍♂️ men_with_bunny_ears", "🤼‍♂️ men_wrestling",
  "🕎 menorah menorah_with_nine_branches", "🚹 mens men’s_room", "🧜‍♀️ mermaid+", "🧜‍♂️ merman+",
  "🧜 merperson+", "🚇 metro", "🦠 microbe", "🎤 microphone", "🔬 microscope",
  "🖕 middle_finger+ reversed_hand_with_middle_finger_extended", "🎖 military_medal", "🌌 milky_way",
  "🚐 minibus", "🗿 moai moyai", "📴 mobile_phone_off", "🤑 money-mouth_face money__mouth_face",
  "💰 money_bag moneybag", "💸 money_with_wings", "🐒 monkey", "🐵 monkey_face", "🚝 monorail",
  "🌔 moon waxing_gibbous_moon", "🥮 moon_cake", "🎑 moon_viewing_ceremony rice_scene", "🕌 mosque",
  "🦟 mosquito", "🛥 motor_boat", "🛵 motor_scooter", "🏍 motorcycle racing_motorcycle",
  "🦼 motorized_wheelchair", "🛣 motorway", "🗻 mount_fuji", "⛰ mountain",
  "🚵 mountain_bicyclist person_mountain_biking+", "🚠 mountain_cableway", "🚞 mountain_railway",
  "🐭 mouse mouse_face", "🐁 mouse2", "🎥 movie_camera", "🤶 mrs._claus+", "🍄 mushroom",
  "🎹 musical_keyboard", "🎵 musical_note", "🎶 musical_notes notes", "🎼 musical_score",
  "🔇 mute muted_speaker", "💅 nail_care nail_polish+", "📛 name_badge", "🏞 national_park",
  "🤢 nauseated_face", "🧿 nazar_amulet", "👔 necktie", "🤓 nerd_face", "😐 neutral_face",
  "🆕 new new_button", "🌑 new_moon", "🌚 new_moon_face new_moon_with_face", "📰 newspaper",
  "🆖 ng ng_button", "🌃 night_with_stars", "🚳 no_bicycles", "⛔ no_entry",
  "🚫 no_entry_sign prohibited", "🙅 no_good person_gesturing_no+", "📵 no_mobile_phones",
  "🔞 no_one_under_eighteen underage", "🚷 no_pedestrians", "🚭 no_smoking",
  "🚱 non-potable_water non__potable_water", "👃 nose+", "📓 notebook",
  "📔 notebook_with_decorative_cover", "🔩 nut_and_bolt", "🅾 o2 o_button_(blood_type)",
  "🌊 ocean water_wave", "🐙 octopus", "🍢 oden", "🏢 office office_building", "🛢 oil_drum",
  "🆗 ok ok_button", "👌 ok_hand+", "🙆 ok_woman person_gesturing_ok+", "🗝 old_key",
  "👴 old_man+ older_man", "👵 old_woman+ older_woman", "🧓 older_adult+", "🕉 om om_symbol",
  "🔛 on on!_arrow", "🚘 oncoming_automobile", "🚍 oncoming_bus", "🚔 oncoming_police_car",
  "🚖 oncoming_taxi", "🩱 one-piece_swimsuit", "🧅 onion", "📂 open_file_folder", "👐 open_hands+",
  "⛎ ophiuchus", "📙 orange_book", "🟠 orange_circle", "🧡 orange_heart", "🟧 orange_square",
  "🦧 orangutan", "☦ orthodox_cross", "🦦 otter", "📤 outbox_tray", "🦉 owl", "🐂 ox", "🦪 oyster",
  "🅿 p_button parking", "📦 package", "📄 page_facing_up", "📃 page_with_curl", "📟 pager",
  "🌴 palm_tree", "🤲 palms_up_together+", "🥞 pancakes", "🐼 panda_face", "📎 paperclip", "🦜 parrot",
  "〽 part_alternation_mark", "⛅ partly_sunny sun_behind_cloud", "🎉 party_popper tada",
  "🥳 partying_face", "🛳 passenger_ship", "🛂 passport_control", "☮ peace_symbol", "🍑 peach",
  "🦚 peacock", "🥜 peanuts", "🍐 pear", "✏ pencil2", "🐧 penguin", "😔 pensive pensive_face",
  "🧑‍🤝‍🧑 people_holding_hands", "🤼 people_wrestling", "🎭 performing_arts",
  "😣 persevere persevering_face", "⛹ person_bouncing_ball+ person_with_ball",
  "🤸 person_cartwheeling+", "🧗 person_climbing+", "🤦 person_facepalming+", "🤺 person_fencing",
  "🙍 person_frowning+", "🛌 person_in_bed+ sleeping_accommodation", "🧘 person_in_lotus_position+",
  "🧖 person_in_steamy_room+", "🤹 person_juggling+", "🧎 person_kneeling",
  "🏋 person_lifting_weights+ weight_lifter", "🤾 person_playing_handball+",
  "🤽 person_playing_water_polo+", "🙎 person_pouting+ person_with_pouting_face",
  "🙋 person_raising_hand+ raising_hand", "🚣 person_rowing_boat+ rowboat",
  "🏃 person_running+ runner running", "🤷 person_shrugging+", "🧍 person_standing",
  "🏄 person_surfing+ surfer", "🏊 person_swimming+ swimmer", "🚶 person_walking+ walking",
  "🧫 petri_dish", "☎ phone telephone", "⛏ pick", "🥧 pie", "🐷 pig pig_face", "🐖 pig2", "🐽 pig_nose",
  "💊 pill", "🤏 pinching_hand", "🍍 pineapple", "🏓 ping_pong table_tennis_paddle_and_ball",
  "🏴‍☠️ pirate_flag", "♓ pisces", "🍕 pizza", "🛐 place_of_worship", "🥺 pleading_face",
  "🚓 police_car", "🚨 police_car_light rotating_light", "🐩 poodle", "🍿 popcorn", "📯 postal_horn",
  "📮 postbox", "🍲 pot_of_food stew", "🚰 potable_water", "🥔 potato", "🍗 poultry_leg",
  "💷 pound pound_banknote", "😾 pouting_cat pouting_cat_face", "😡 pouting_face rage",
  "📿 prayer_beads", "🤰 pregnant_woman+", "🥨 pretzel", "🤴 prince+", "👸 princess+", "🖨 printer",
  "🦯 probing_cane", "🟣 purple_circle", "💜 purple_heart", "🟪 purple_square", "👛 purse", "📌 pushpin",
  "❓ question question_mark", "🐰 rabbit rabbit_face", "🐇 rabbit2", "🦝 raccoon", "🐎 racehorse",
  "🏎 racing_car", "📻 radio", "🔘 radio_button", "☢ radioactive radioactive_sign", "🚃 railway_car",
  "🛤 railway_track", "🌈 rainbow", "🏳️‍🌈 rainbow_flag", "🤚 raised_back_of_hand+",
  "🖖 raised_hand_with_part_between_middle_and_ring_fingers vulcan_salute+",
  "🙌 raised_hands raising_hands+", "🐏 ram", "🍜 ramen steaming_bowl", "🐀 rat", "🪒 razor",
  "🧾 receipt", "♻ recycle recycling_symbol", "👨‍🦰 red-haired_man", "👩‍🦰 red-haired_woman",
  "🔴 red_circle", "🧧 red_envelope", "🦰 red_hair", "🟥 red_square",
  "🔻 red_triangle_pointed_down small_red_triangle_down",
  "🔺 red_triangle_pointed_up small_red_triangle",
  "🇦 regional_indicator_a regional_indicator_symbol_letter_a",
  "🇧 regional_indicator_b regional_indicator_symbol_letter_b",
  "🇨 regional_indicator_c regional_indicator_symbol_letter_c",
  "🇩 regional_indicator_d regional_indicator_symbol_letter_d",
  "🇪 regional_indicator_e regional_indicator_symbol_letter_e",
  "🇫 regional_indicator_f regional_indicator_symbol_letter_f",
  "🇬 regional_indicator_g regional_indicator_symbol_letter_g",
  "🇭 regional_indicator_h regional_indicator_symbol_letter_h",
  "🇮 regional_indicator_i regional_indicator_symbol_letter_i",
  "🇯 regional_indicator_j regional_indicator_symbol_letter_j",
  "🇰 regional_indicator_k regional_indicator_symbol_letter_k",
  "🇱 regional_indicator_l regional_indicator_symbol_letter_l",
  "🇲 regional_indicator_m regional_indicator_symbol_letter_m",
  "🇳 regional_indicator_n regional_indicator_symbol_letter_n",
  "🇴 regional_indicator_o regional_indicator_symbol_letter_o",
  "🇵 regional_indicator_p regional_indicator_symbol_letter_p",
  "🇶 regional_indicator_q regional_indicator_symbol_letter_q",
  "🇷 regional_indicator_r regional_indicator_symbol_letter_r",
  "🇸 regional_indicator_s regional_indicator_symbol_letter_s",
  "🇹 regional_indicator_symbol_letter_t regional_indicator_t",
  "🇺 regional_indicator_symbol_letter_u regional_indicator_u",
  "🇻 regional_indicator_symbol_letter_v regional_indicator_v",
  "🇼 regional_indicator_symbol_letter_w regional_indicator_w",
  "🇽 regional_indicator_symbol_letter_x regional_indicator_x",
  "🇾 regional_indicator_symbol_letter_y regional_indicator_y",
  "🇿 regional_indicator_symbol_letter_z regional_indicator_z", "® registered",
  "☺ relaxed smiling_face", "😌 relieved relieved_face", "🎗 reminder_ribbon",
  "🔁 repeat repeat_button", "🔂 repeat_one repeat_single_button", "🚻 restroom", "💞 revolving_hearts",
  "🦏 rhinoceros", "🎀 ribbon", "🍙 rice_ball", "🍘 rice_cracker", "🤜 right-facing_fist+",
  "🗯 right_anger_bubble", "💍 ring", "🪐 ringed_planet", "🍠 roasted_sweet_potato sweet_potato",
  "🤖 robot robot_face", "🚀 rocket", "🧻 roll_of_paper", "🗞 rolled-up_newspaper rolled__up_newspaper",
  "🎢 roller_coaster", "🤣 rolling_on_the_floor_laughing", "🐓 rooster", "🌹 rose", "🏵 rosette",
  "📍 round_pushpin", "🏉 rugby_football", "🎽 running_shirt running_shirt_with_sash", "🧷 safety_pin",
  "🦺 safety_vest", "♐ sagittarius", "🍶 sake", "🧂 salt", "👡 sandal woman’s_sandal", "🥪 sandwich",
  "🎅 santa santa_claus+", "🥻 sari", "📡 satellite satellite_antenna", "🦕 sauropod", "🎷 saxophone",
  "🧣 scarf", "🏫 school", "🎒 school_backpack school_satchel", "✂ scissors", "♏ scorpio scorpius",
  "🦂 scorpion", "🏴󠁧󠁢󠁳󠁣󠁴󠁿 scotland", "🙀 scream_cat weary_cat_face", "📜 scroll", "💺 seat",
  "🙈 see-no-evil_monkey see_no_evil", "🌱 seedling", "🤳 selfie+", "🐕‍🦺 service_dog",
  "🥘 shallow_pan_of_food", "☘ shamrock", "🦈 shark", "🍧 shaved_ice", "🐚 shell spiral_shell",
  "🛡 shield", "⛩ shinto_shrine", "🚢 ship", "👕 shirt t-shirt tshirt", "🌠 shooting_star stars",
  "🛍 shopping_bags", "🛒 shopping_cart", "🩳 shorts", "🚿 shower", "🦐 shrimp",
  "🔀 shuffle_tracks_button twisted_rightwards_arrows", "🤫 shushing_face", "🤘 sign_of_the_horns+",
  "🛹 skateboard", "🎿 ski skis", "⛷ skier", "💀 skull", "☠ skull_and_crossbones", "🦨 skunk", "🛷 sled",
  "😴 sleeping sleeping_face", "😪 sleepy sleepy_face", "🙁 slightly_frowning_face",
  "🙂 slightly_smiling_face", "🎰 slot_machine", "🦥 sloth", "🛩 small_airplane",
  "🔹 small_blue_diamond", "🔸 small_orange_diamond", "🥰 smiling_face_with_3_hearts",
  "😈 smiling_face_with_horns smiling_imp", "😎 smiling_face_with_sunglasses sunglasses",
  "😏 smirk smirking_face", "🐌 snail", "🐍 snake", "🤧 sneezing_face",
  "🏔 snow-capped_mountain snow_capped_mountain", "🏂 snowboarder+", "❄ snowflake", "☃ snowman",
  "⛄ snowman_without_snow", "🧼 soap", "⚽ soccer soccer_ball", "🧦 socks", "🥎 softball",
  "🔜 soon soon_arrow", "🆘 sos sos_button", "🔉 sound speaker_medium_volume", "♠ spade_suit spades",
  "🍝 spaghetti", "❇ sparkle", "🎇 sparkler", "✨ sparkles", "💖 sparkling_heart",
  "🙊 speak-no-evil_monkey speak_no_evil", "🔈 speaker speaker_low_volume",
  "🗣 speaking_head speaking_head_in_silhouette", "💬 speech_balloon", "🚤 speedboat", "🕷 spider",
  "🕸 spider_web", "🗓 spiral_calendar spiral_calendar_pad", "🗒 spiral_note_pad spiral_notepad",
  "🧽 sponge", "🥄 spoon", "🏅 sports_medal", "🐳 spouting_whale whale", "🦑 squid",
  "😝 squinting_face_with_tongue stuck_out_tongue_closed_eyes", "🏟 stadium",
  "⭐ star white_medium_star", "🤩 star-struck", "☪ star_and_crescent", "✡ star_of_david",
  "🚉 station", "🗽 statue_of_liberty", "🩺 stethoscope", "🛑 stop_sign", "⏱ stopwatch",
  "📏 straight_ruler", "🍓 strawberry", "😜 stuck_out_tongue_winking_eye winking_face_with_tongue",
  "🎙 studio_microphone", "🥙 stuffed_flatbread", "☀ sun sunny",
  "🌥 sun_behind_large_cloud white_sun_behind_cloud",
  "🌦 sun_behind_rain_cloud white_sun_behind_cloud_with_rain",
  "🌤 sun_behind_small_cloud white_sun_with_small_cloud", "🌞 sun_with_face", "🌻 sunflower",
  "🌅 sunrise", "🌄 sunrise_over_mountains", "🦸 superhero", "🦹 supervillain", "🍣 sushi",
  "🚟 suspension_railway", "🦢 swan", "💦 sweat_droplets sweat_drops", "🕍 synagogue", "💉 syringe",
  "🦖 t-rex", "🌮 taco", "🥡 takeout_box", "🎋 tanabata_tree", "🍊 tangerine", "♉ taurus", "🚕 taxi",
  "🍵 tea teacup_without_handle", "🧸 teddy_bear", "📞 telephone_receiver", "🔭 telescope",
  "📺 television tv", "🎾 tennis", "⛺ tent", "🧪 test_tube", "🌡 thermometer", "🤔 thinking_face",
  "💭 thought_balloon", "🧵 thread", "🎫 ticket", "🐯 tiger tiger_face", "🐅 tiger2", "⏲ timer_clock",
  "😫 tired_face", "™ tm trade_mark", "🚽 toilet", "🗼 tokyo_tower", "🍅 tomato", "👅 tongue",
  "🧰 toolbox", "🦷 tooth", "🔝 top top_arrow", "🎩 top_hat tophat", "🖲 trackball", "🚜 tractor",
  "🚋 train tram_car", "🚆 train2", "🚊 tram", "🚩 triangular_flag triangular_flag_on_post",
  "📐 triangular_ruler", "🔱 trident trident_emblem", "🚎 trolleybus", "🏆 trophy", "🍹 tropical_drink",
  "🐠 tropical_fish", "🎺 trumpet", "🌷 tulip", "🥃 tumbler_glass", "🦃 turkey", "🐢 turtle",
  "💕 two_hearts", "👬 two_men_holding_hands", "👭 two_women_holding_hands", "☂ umbrella",
  "⛱ umbrella_on_ground", "☔ umbrella_with_rain_drops", "😒 unamused unamused_face",
  "🦄 unicorn_face", "🇺🇳 united_nations", "🔓 unlock unlocked", "🆙 up up!_button",
  "🙃 upside-down_face upside__down_face", "✌ v victory_hand+", "🧛 vampire+",
  "🚦 vertical_traffic_light", "📼 vhs videocassette", "📳 vibration_mode", "📹 video_camera",
  "🎮 video_game", "🎻 violin", "♍ virgo", "🌋 volcano", "🏐 volleyball", "🆚 vs vs_button", "🧇 waffle",
  "🏴󠁧󠁢󠁷󠁬󠁳󠁿 wales", "🌘 waning_crescent_moon", "🌖 waning_gibbous_moon", "⚠ warning", "🗑 wastebasket",
  "⌚ watch", "🐃 water_buffalo", "🚾 water_closet wc", "🍉 watermelon", "👋 wave waving_hand+",
  "🏳 waving_white_flag white_flag", "〰 wavy_dash", "🌒 waxing_crescent_moon", "😩 weary weary_face",
  "💒 wedding", "🐋 whale2", "☸ wheel_of_dharma", "♿ wheelchair wheelchair_symbol",
  "👨‍🦳 white-haired_man", "👩‍🦳 white-haired_woman", "✅ white_check_mark white_heavy_check_mark",
  "⚪ white_circle", "💮 white_flower", "🦳 white_hair", "🤍 white_heart", "⬜ white_large_square",
  "◽ white_medium-small_square white_medium_small_square", "◻ white_medium_square",
  "▫ white_small_square", "🔳 white_square_button", "🥀 wilted_flower",
  "🌬 wind_blowing_face wind_face", "🎐 wind_chime", "🍷 wine_glass", "😉 wink winking_face",
  "🐺 wolf wolf_face", "👩 woman+", "👩‍🎨 woman_artist+", "👩‍🚀 woman_astronaut+", "🚴‍♀️ woman_biking+",
  "⛹️‍♀️ woman_bouncing_ball+", "🙇‍♀️ woman_bowing+", "🤸‍♀️ woman_cartwheeling+",
  "🧗‍♀️ woman_climbing+", "👷‍♀️ woman_construction_worker+", "👩‍🍳 woman_cook+",
  "🕵️‍♀️ woman_detective+", "🧝‍♀️ woman_elf+", "🤦‍♀️ woman_facepalming+",
  "👩‍🏭 woman_factory_worker+", "🧚‍♀️ woman_fairy+", "👩‍🌾 woman_farmer+", "👩‍🚒 woman_firefighter+",
  "🙍‍♀️ woman_frowning+", "🧞‍♀️ woman_genie", "🙅‍♀️ woman_gesturing_no+",
  "🙆‍♀️ woman_gesturing_ok+", "💇‍♀️ woman_getting_haircut+", "💆‍♀️ woman_getting_massage+",
  "🏌️‍♀️ woman_golfing+", "💂‍♀️ woman_guard+", "👩‍⚕️ woman_health_worker+",
  "🧘‍♀️ woman_in_lotus_position+", "👩‍🦽 woman_in_manual_wheelchair",
  "👩‍🦼 woman_in_motorized_wheelchair", "🧖‍♀️ woman_in_steamy_room+", "👩‍⚖️ woman_judge+",
  "🤹‍♀️ woman_juggling+", "🏋️‍♀️ woman_lifting_weights+", "🧙‍♀️ woman_mage+", "👩‍🔧 woman_mechanic+",
  "🚵‍♀️ woman_mountain_biking+", "👩‍💼 woman_office_worker+", "👩‍✈️ woman_pilot+",
  "🤾‍♀️ woman_playing_handball+", "🤽‍♀️ woman_playing_water_polo+", "👮‍♀️ woman_police_officer+",
  "🙎‍♀️ woman_pouting+", "🙋‍♀️ woman_raising_hand+", "🚣‍♀️ woman_rowing_boat+",
  "🏃‍♀️ woman_running+", "👩‍🔬 woman_scientist+", "🤷‍♀️ woman_shrugging+", "👩‍🎤 woman_singer+",
  "👩‍🎓 woman_student+", "🏄‍♀️ woman_surfing+", "🏊‍♀️ woman_swimming+", "👩‍🏫 woman_teacher+",
  "👩‍💻 woman_technologist+", "💁‍♀️ woman_tipping_hand+", "🧛‍♀️ woman_vampire+",
  "🚶‍♀️ woman_walking+", "👳‍♀️ woman_wearing_turban+", "🧕 woman_with_headscarf+",
  "👩‍🦯 woman_with_probing_cane", "🧟‍♀️ woman_zombie", "👚 womans_clothes woman’s_clothes",
  "👒 womans_hat woman’s_hat", "👯‍♀️ women_with_bunny_ears", "🤼‍♀️ women_wrestling",
  "🚺 womens women’s_room", "🥴 woozy_face", "🗺 world_map", "😟 worried worried_face", "🔧 wrench",
  "✍ writing_hand+", "🧶 yarn", "🥱 yawning_face", "🟡 yellow_circle", "💛 yellow_heart",
  "🟨 yellow_square", "💴 yen yen_banknote", "☯ yin_yang", "🪀 yo-yo", "🤪 zany_face", "🦓 zebra",
  "🤐 zipper-mouth_face zipper__mouth_face", "🧟 zombie", "💤 zzz"]

end Schemagram.Screen
